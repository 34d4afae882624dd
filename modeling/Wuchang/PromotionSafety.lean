/-
**A promotion happens once, and to the pointer that was read.**

The calls of `Wuchang/GovernedPromotion.lean` are followed over every run.  Only the call that has the
lock changes files, so that what it has found stays as it is until it gives the lock back.  A pointer
cannot return to a content it had before: a content names the receipt of the call that has written it, a
receipt names its nonce, and the nonce of a call is fresh when it is consumed.  So a call that finds the
pointer as it has read it can tell that nobody has switched it in between.

Main definitions:

* `GovernedPromotion.named` — the receipt a pointer names;
* `GovernedPromotion.Initial` — the repository before any call has begun;
* `GovernedPromotion.Inv` — what every reachable state satisfies.

Main results:

* `GovernedPromotion.inv_of_run` — the invariant holds in every run;
* `GovernedPromotion.promoted_once` — a nonce promotes at most once, a promotion replaces the content its
  request names and nobody has switched that pointer since it was read, and the pointer then names the
  receipt that was published;
* `GovernedPromotion.lock_owned` — the lock is never lost and never shared.
-/

import Wuchang.GovernedPromotion
import Mathlib.Logic.Relation

set_option relaxedAutoImplicit false
set_option autoImplicit false

namespace GovernedPromotion

open Py

/-! ### Typed values -/

namespace Typed

theorem get {v : PyVal} (h : Typed v) (k : String) : Typed (v.get k) := by
  cases h with
  | dict items _ hvals =>
      rw [PyVal.get]
      cases hget : getItem items (cp k) with
      | some w =>
          obtain ⟨p, hp, rfl⟩ := mem_of_getItem hget
          exact hvals p hp
      | none => exact .none
  | _ => exact .none

theorem setKey {k : PyStr} {v : PyVal} {items : Items} (h : Typed (.dict items)) (hk : IsText k)
    (hv : Typed v) : Typed (.dict (setKey k v items)) := by
  cases h with
  | dict _ keys hvals =>
      refine .dict _ (fun q hq s hs => ?_) fun q hq => ?_
      · rcases mem_setKey hq with rfl | hq
        · cases hs
          exact hk
        · exact keys q hq s hs
      · rcases mem_setKey hq with rfl | hq
        · exact hv
        · exact hvals q hq

theorem lit (s : String) : Typed (lit s) := .str _ (isText_cp s)

theorem obj {l : List (String × PyVal)} (h : ∀ p ∈ l, Typed p.2) : Typed (obj l) := by
  refine .dict _ (fun q hq s hs => ?_) fun q hq => ?_
  · obtain ⟨p, -, rfl⟩ := List.mem_map.1 hq
    cases hs
    exact isText_cp _
  · obtain ⟨p, hp, rfl⟩ := List.mem_map.1 hq
    exact h p hp

end Typed

/-- What is read is typed. -/
theorem typed_of_loaded {v : PyVal} (h : PyJson.Loaded v) : Typed v := by
  induction h with
  | none => exact .none
  | bool b => exact .bool b
  | int n => exact .int n
  | float x => exact .float x
  | str s hs => exact .str s hs
  | list xs _ ih => exact .list xs ih
  | dict items _ keys _ ih =>
      refine .dict items (fun p hp s hs => ?_) ih
      obtain ⟨t, ht, htext⟩ := keys p hp
      rw [hs] at ht
      cases ht
      exact htext

theorem ascii_hexdigest (b : Bytes) : ∀ c ∈ Sha256.hexdigest b, c < 128 := by
  have h := Sha256.isHex64_hexdigest b
  rw [Sha256.isHex64, Bool.and_eq_true, List.all_eq_true] at h
  intro c hc
  have hrange := h.2 c hc
  simp only [Bool.or_eq_true, Bool.and_eq_true, decide_eq_true_eq] at hrange
  omega

theorem isText_of_ascii {s : PyStr} (h : ∀ c ∈ s, c < 128) : IsText s := fun c hc =>
  (h c hc).trans (by norm_num)

theorem ascii_nonceRef {s : PyStr} (h : NonceLedger.isNonceRef s = true) : ∀ c ∈ s, c < 128 := by
  rw [NonceLedger.isNonceRef, Bool.and_eq_true, List.isPrefixOf_iff_prefix] at h
  obtain ⟨⟨t, rfl⟩, hhex⟩ := h
  have hdrop : (cp "nonce_ref:sha256:" ++ t).drop 17 = t := rfl
  rw [hdrop, Sha256.isHex64, Bool.and_eq_true, List.all_eq_true] at hhex
  rw [List.forall_mem_append]
  refine ⟨by decide, fun c hc => ?_⟩
  have hrange := hhex.2 c hc
  simp only [Bool.or_eq_true, Bool.and_eq_true, decide_eq_true_eq] at hrange
  omega

/-- The items of an object that is read are sorted, and their keys are texts. -/
theorem loaded_items {items : Items} (h : PyJson.Loaded (.dict items)) :
    Sorted items ∧ ∀ p ∈ items, ∃ s, p.1 = .str s := by
  cases h with
  | dict _ hsorted hkeys _ =>
      refine ⟨hsorted, fun p hp => ?_⟩
      obtain ⟨s, hs, -⟩ := hkeys p hp
      exact ⟨s, hs⟩

/-! ### What a plan writes -/

section Plans

variable {lib : Library}

/-- The value of a key that no other key is cleaned to is cleaned. -/
theorem clean_get {items cleaned : Items} {k : String} (hsorted : Sorted items)
    (hkey : ∀ p ∈ items, lib.nfc (keyText lib p.1) = cp k ↔ p.1 = .str (cp k))
    (h : cleanItems lib [] items = .ok cleaned) :
    clean lib ((PyVal.dict items).get k) = .ok ((PyVal.dict cleaned).get k) := by
  rcases getItem_cleanItems hsorted hkey h with ⟨hitems, hcleaned⟩ | ⟨v, w, hitems, hclean, hcleaned⟩
  · rw [PyVal.get, PyVal.get, hitems, hcleaned]
    rfl
  · rw [PyVal.get, PyVal.get, hitems, hcleaned]
    exact hclean

/-- Keys in ASCII are cleaned to themselves. -/
theorem key_iff_of_ascii {items : Items} (h : ∀ p ∈ items, ∃ s, p.1 = .str s ∧ ∀ c ∈ s, c < 128)
    (k : PyStr) : ∀ p ∈ items, lib.nfc (keyText lib p.1) = k ↔ p.1 = .str k := by
  intro p hp
  obtain ⟨s, hs, hascii⟩ := h p hp
  rw [hs, keyText, lib.nfc_ascii s hascii, PyKey.str.injEq]

theorem ascii_fields {l : List (String × PyVal)} (h : ∀ p ∈ l, ∀ c ∈ cp p.1, c < 128) :
    ∀ q ∈ fields l, ∃ s, q.1 = .str s ∧ ∀ c ∈ s, c < 128 := by
  intro q hq
  obtain ⟨p, hp, rfl⟩ := List.mem_map.1 hq
  exact ⟨cp p.1, rfl, h p hp⟩

/-- The receipt a pointer names. -/
def named (content : Bytes) : PyVal :=
  match PyJson.loadsBytes content with
  | some v => (v.get "pending_promotion").get "promotion_receipt_sha256"
  | none => .none

/-- The nonce a receipt was issued for. -/
def receiptNonce (bytes : Bytes) : PyVal :=
  match PyJson.loadsBytes bytes with
  | some v => v.get "authorization_nonce_ref"
  | none => .none

/-- A plan is made for a nonce, from a pointer that was read. -/
structure Makes (lib : Library) (c : Call) (b : Bound) (a : Authorization) (p : Plan) : Prop where
  nonce : NonceLedger.isNonceRef a.nonce = true
  payload : IsText a.payloadSha
  loaded : PyJson.Loaded b.pointer
  isDict : b.pointer.isDict = true
  prepared : ∃ out, prepare lib c.pid c.request b a out = .ok p

theorem clean_ascii {s : PyStr} (h : ∀ c ∈ s, c < 128) : clean lib (.str s) = .ok (.str s) := by
  rw [clean, lib.nfc_ascii s h]

/-- The keys of a literal: they are in order, and in ASCII. -/
def literalKeys (ks : List String) : Prop := keysSorted ks ∧ ∀ k ∈ ks, ∀ c ∈ cp k, c < 128

instance (ks : List String) : Decidable (literalKeys ks) := inferInstanceAs (Decidable (_ ∧ _))

/-- The items of a literal are sorted, and their keys are cleaned to themselves. -/
theorem literal_items (l : List (String × PyVal)) (ks : List String) (hl : l.map Prod.fst = ks)
    (hks : literalKeys ks) :
    Sorted (fields l) ∧ ∀ p ∈ fields l, ∃ s, p.1 = .str s ∧ ∀ c ∈ s, c < 128 := by
  subst hl
  refine ⟨sorted_fields.2 hks.1, ascii_fields fun p hp => hks.2 p.1 (List.mem_map_of_mem hp)⟩

namespace Makes

variable {c : Call} {b : Bound} {a : Authorization} {p : Plan}

/-- What `prepare` has computed. -/
theorem spec (h : Makes lib c b a p) : ∃ authorityId issuedAt pointerBytes receiptBytes transitionBytes out,
    Typed (obj (receiptFields c.request a authorityId issuedAt)) ∧
      canonicalBytes lib (obj (receiptFields c.request a authorityId issuedAt)) = .ok p.receiptBytes ∧
      canonicalBytes lib (nextPointer c.request b.pointer p.receiptSha) = .ok pointerBytes ∧
      canonicalBytes lib (receipt (receiptFields c.request a authorityId issuedAt) p.receiptSha) =
        .ok receiptBytes ∧
      canonicalBytes lib (stateTransition p.receiptSha) = .ok transitionBytes ∧
      p.receiptSha = Sha256.hexdigest p.receiptBytes ∧ p.pointerFile = pointerBytes ++ [10] ∧
      p.receiptFile = receiptBytes ++ [10] ∧ p.transitionFile = transitionBytes ++ [10] ∧
      p.pointerPath = b.pointerPath ∧ p.tmpPath = pointerTmp c.pid b.pointerPath ∧ p.outputDir = out := by
  obtain ⟨out, hprepare⟩ := h.prepared
  rw [prepare, bind_eq_ok_iff] at hprepare
  obtain ⟨authorityId, hauthority, hprepare⟩ := hprepare
  rw [bind_eq_ok_iff] at hprepare
  obtain ⟨issuedAt, hissued, hprepare⟩ := hprepare
  obtain ⟨receiptBytes, hreceipt, hprepare⟩ := bind_eq_ok_iff.1 hprepare
  obtain ⟨pointerBytes, hpointer, hprepare⟩ := bind_eq_ok_iff.1 hprepare
  obtain ⟨receiptFile, hreceiptFile, hprepare⟩ := bind_eq_ok_iff.1 hprepare
  obtain ⟨transition, htransition, hprepare⟩ := bind_eq_ok_iff.1 hprepare
  cases hprepare
  refine ⟨authorityId, issuedAt, pointerBytes, receiptFile, transition, out, ?_, hreceipt, hpointer,
    hreceiptFile, htransition, rfl, rfl, rfl, rfl, rfl, rfl, rfl⟩
  have hissuedText : IsText issuedAt := by
    rw [utcText] at hissued
    split at hissued
    · next htext =>
        cases hissued
        exact lib.utcText_text _ _ htext
    · cases hissued
  have hauthorityTyped : Typed authorityId := by
    rw [← get_of_at hauthority]
    exact (c.typed.get _).get _
  refine Typed.obj ?_
  simp only [receiptFields, List.forall_mem_cons, List.not_mem_nil, IsEmpty.forall_iff, implies_true,
    and_true]
  exact ⟨.bool _, c.typed.get _, hauthorityTyped, .str _ (isText_of_ascii (ascii_nonceRef h.nonce)),
    .str _ h.payload, c.typed.get _, c.typed.get _, .bool _, c.typed.get _, c.typed.get _, c.typed.get _,
    .bool _, .bool _, .str _ hissuedText, .bool _, Typed.lit _, Typed.lit _, c.typed.get _, Typed.lit _⟩

theorem sha_ascii (h : Makes lib c b a p) : ∀ c ∈ p.receiptSha, c < 128 := by
  obtain ⟨-, -, -, -, -, -, -, -, -, -, -, hsha, -⟩ := h.spec
  rw [hsha]
  exact ascii_hexdigest _

/-- The keys of a receipt. -/
def receiptKeys : List String := ["activation", "active_pointer_preimage_sha256", "authority_id",
  "authorization_nonce_ref", "authorization_payload_sha256", "candidate_ref", "candidate_sha256",
  "canonical_content_mutated", "current_canonical_sha256", "decision_evidence_ref",
  "decision_evidence_sha256", "final_authority_granted", "historical_receipt_reconstructed", "issued_at",
  "promotion", "schema_id", "state", "target_canonical_sha256", "total_field_decision"]

/-- The receipt is issued for the nonce. -/
theorem receiptNonce_receiptBytes (h : Makes lib c b a p) : receiptNonce p.receiptBytes = .str a.nonce := by
  obtain ⟨authorityId, issuedAt, -, -, -, -, htyped, hreceipt, -⟩ := h.spec
  obtain ⟨cleaned, hcleaned, hloads⟩ := loads_canonicalBytes htyped hreceipt (.inl rfl)
  obtain ⟨hsorted, hascii⟩ := literal_items (receiptFields c.request a authorityId issuedAt) receiptKeys rfl
    (by decide)
  have hget := clean_get (k := "authorization_nonce_ref") hsorted (key_iff_of_ascii hascii _) hcleaned
  have hnonce : (obj (receiptFields c.request a authorityId issuedAt)).get "authorization_nonce_ref" =
      .str a.nonce := by
    simp [receiptFields, PyVal.get, obj]
  rw [← obj, hnonce, clean_ascii (ascii_nonceRef h.nonce), Except.ok.injEq] at hget
  rw [List.append_nil] at hloads
  rw [receiptNonce, hloads, hget]

/-- A receipt with its hash, as it is read back. -/
theorem receiptFile_spec (h : Makes lib c b a p) : ∃ v, PyJson.loadsBytes p.receiptFile = some v ∧
    v.get "receipt_sha256" = .str p.receiptSha ∧ v.get "pending_promotion" = .none := by
  obtain ⟨authorityId, issuedAt, -, bytes, -, -, htyped, -, -, hreceipt, -, -, -, hfile, -⟩ := h.spec
  obtain ⟨hsorted, hascii⟩ := literal_items (receiptFields c.request a authorityId issuedAt) receiptKeys rfl
    (by decide)
  have hname : ∀ c ∈ cp "receipt_sha256", c < 128 := by decide
  obtain ⟨cleaned, hcleaned, hloads⟩ := loads_canonicalBytes
    (htyped.setKey (isText_of_ascii hname) (.str _ (isText_of_ascii h.sha_ascii))) hreceipt (.inr rfl)
  have hstr : ∀ p ∈ fields (receiptFields c.request a authorityId issuedAt), ∃ s, p.1 = .str s := by
    intro p hp
    obtain ⟨s, hs, -⟩ := hascii p hp
    exact ⟨s, hs⟩
  have hascii' : ∀ q ∈ setKey (cp "receipt_sha256") (.str p.receiptSha)
      (fields (receiptFields c.request a authorityId issuedAt)), ∃ s, q.1 = .str s ∧ ∀ c ∈ s, c < 128 := by
    intro q hq
    rcases mem_setKey hq with rfl | hq
    · exact ⟨_, rfl, hname⟩
    · exact hascii q hq
  have hget := fun k => clean_get (k := k) (sorted_setKey _ _ hsorted hstr)
    (key_iff_of_ascii hascii' _) hcleaned
  refine ⟨.dict cleaned, by rw [hfile, hloads], ?_, ?_⟩
  · have hsha := hget "receipt_sha256"
    rw [PyVal.get, getItem_setKey, if_pos rfl] at hsha
    rw [show (Option.some (PyVal.str p.receiptSha)).getD PyVal.none = .str p.receiptSha from rfl,
      clean_ascii h.sha_ascii, Except.ok.injEq] at hsha
    exact hsha.symm
  · have hnone := hget "pending_promotion"
    have hmissing : getItem (fields (receiptFields c.request a authorityId issuedAt))
        (cp "pending_promotion") = none := by
      simp [receiptFields]
    rw [PyVal.get, getItem_setKey, if_neg (by decide), hmissing] at hnone
    exact (Except.ok.inj hnone).symm

theorem named_receiptFile (h : Makes lib c b a p) (sha : PyStr) : named p.receiptFile ≠ .str sha := by
  obtain ⟨v, hloads, -, hnone⟩ := h.receiptFile_spec
  rw [named, hloads]
  dsimp only
  rw [hnone]
  simp [PyVal.get]

/-- The keys of a transition. -/
def transitionKeys : List String :=
  ["activation", "final_authority_granted", "from", "receipt_sha256", "schema_id", "to"]

theorem named_transitionFile (h : Makes lib c b a p) (sha : PyStr) :
    named p.transitionFile ≠ .str sha := by
  obtain ⟨-, -, -, -, bytes, -, -, -, -, -, htransition, -, -, -, hfile, -⟩ := h.spec
  have htyped : Typed (stateTransition p.receiptSha) := by
    refine Typed.obj ?_
    simp only [List.forall_mem_cons, List.not_mem_nil, IsEmpty.forall_iff, implies_true, and_true]
    exact ⟨.bool _, .bool _, Typed.lit _, .str _ (isText_of_ascii h.sha_ascii), Typed.lit _, Typed.lit _⟩
  obtain ⟨cleaned, hcleaned, hloads⟩ := loads_canonicalBytes htyped htransition (.inr rfl)
  obtain ⟨hsorted, hascii⟩ := literal_items [
    ("activation", .bool false),
    ("final_authority_granted", .bool false),
    ("from", lit "CANDIDATE_ACCEPTED"),
    ("receipt_sha256", .str p.receiptSha),
    ("schema_id", lit "W7TP_PROMOTION_STATE_TRANSITION_V1"),
    ("to", lit "PROMOTED_PENDING_ACTIVATION")] transitionKeys rfl (by decide)
  have hget := clean_get (k := "pending_promotion") hsorted (key_iff_of_ascii hascii _) hcleaned
  have hmissing : (stateTransition p.receiptSha).get "pending_promotion" = .none := by
    simp [stateTransition, PyVal.get, obj]
  rw [← obj, ← stateTransition, hmissing] at hget
  rw [hfile, named, hloads]
  dsimp only
  rw [← Except.ok.inj hget]
  simp [PyVal.get]

/-- The keys of `pending_promotion`. -/
def pendingKeys : List String := ["activation", "candidate_sha256", "final_authority_granted",
  "promotion_receipt_sha256", "target_canonical_sha256"]

/-- The pointer that is written names the receipt. -/
theorem pointerFile_spec (h : Makes lib c b a p) : ∃ v, PyJson.loadsBytes p.pointerFile = some v ∧
    (v.get "pending_promotion").get "promotion_receipt_sha256" = .str p.receiptSha := by
  obtain ⟨-, -, bytes, -, -, -, -, -, hpointer, -, -, -, hfile, -⟩ := h.spec
  have hisDict := h.isDict
  have hloaded := h.loaded
  cases hvalue : b.pointer with
  | dict items =>
      rw [hvalue] at hloaded hpointer
      have hstate : ∀ c ∈ cp "promotion_state", c < 128 := by decide
      have hpending : ∀ c ∈ cp "pending_promotion", c < 128 := by decide
      have htypedPending : Typed (pendingPromotion c.request p.receiptSha) := by
        refine Typed.obj ?_
        simp only [List.forall_mem_cons, List.not_mem_nil, IsEmpty.forall_iff, implies_true, and_true]
        exact ⟨.bool _, c.typed.get _, .bool _, .str _ (isText_of_ascii h.sha_ascii), c.typed.get _⟩
      have hnext := hloaded.setKey (isText_of_ascii hstate)
        (.str _ (isText_cp "PROMOTED_PENDING_ACTIVATION"))
      have htyped := (typed_of_loaded hnext).setKey (isText_of_ascii hpending) htypedPending
      obtain ⟨cleaned, hcleaned, hloads⟩ := loads_canonicalBytes htyped hpointer (.inr rfl)
      refine ⟨.dict cleaned, by rw [hfile, hloads], ?_⟩
      -- no other key of the pointer is cleaned to this one
      obtain ⟨hsorted, hkeys⟩ := loaded_items hnext
      have hkey : ∀ q ∈ setKey (cp "pending_promotion") (pendingPromotion c.request p.receiptSha)
          (setKey (cp "promotion_state") (lit "PROMOTED_PENDING_ACTIVATION") items),
          lib.nfc (keyText lib q.1) = cp "pending_promotion" ↔ q.1 = .str (cp "pending_promotion") := by
        intro q hq
        obtain ⟨s, hs⟩ : ∃ s, q.1 = .str s := by
          rcases mem_setKey hq with rfl | hq
          · exact ⟨_, rfl⟩
          · exact hkeys q hq
        rw [hs, keyText, PyKey.str.injEq]
        constructor
        · exact lib.nfc_name s _ (by decide)
        · rintro rfl
          exact lib.nfc_ascii _ hpending
      have hget := clean_get (sorted_setKey _ _ hsorted hkeys) hkey hcleaned
      rw [PyVal.get, getItem_setKey, if_pos rfl] at hget
      obtain ⟨pending, hcleanedPending, heq⟩ := bind_eq_ok_iff.1 hget
      obtain ⟨hsortedPending, hasciiPending⟩ := literal_items [
        ("activation", .bool false),
        ("candidate_sha256", c.request.get "candidate_sha256"),
        ("final_authority_granted", .bool false),
        ("promotion_receipt_sha256", .str p.receiptSha),
        ("target_canonical_sha256", c.request.get "target_canonical_sha256")] pendingKeys rfl (by decide)
      have hsha := clean_get (k := "promotion_receipt_sha256") hsortedPending
        (key_iff_of_ascii hasciiPending _) hcleanedPending
      have hfield : (pendingPromotion c.request p.receiptSha).get "promotion_receipt_sha256" =
          .str p.receiptSha := by
        simp [pendingPromotion, PyVal.get, obj]
      rw [← obj, ← pendingPromotion, hfield, clean_ascii h.sha_ascii, Except.ok.injEq] at hsha
      rw [← Except.ok.inj heq]
      exact hsha.symm
  | _ =>
      rw [hvalue] at hisDict
      cases hisDict

theorem named_pointerFile (h : Makes lib c b a p) : named p.pointerFile = .str p.receiptSha := by
  obtain ⟨v, hloads, hsha⟩ := h.pointerFile_spec
  rw [named, hloads]
  exact hsha

end Makes

end Plans

/-! ### The files -/

section Invariant

variable {ι : Type} [DecidableEq ι]

/-- A call has switched its pointer. -/
def Switched (s : State ι) (i : ι) : Prop := ∃ sw ∈ s.switches, sw.call = i

/-- A receipt that is named at a path was there before, or it is of a call whose temporary file this is,
or of a call that has switched its pointer. -/
def Known (s₀ s : State ι) (q : Path) (sha : PyStr) : Prop :=
  (∀ bytes k, Sha256.hexdigest bytes = sha → receiptNonce bytes = .str k → k ∈ s₀.ledger.used) ∨
    ∃ i p, s.plans i = some p ∧ p.receiptSha = sha ∧ (q = p.tmpPath ∨ Switched s i)

/-- What the files satisfy. -/
structure FileInv (s₀ s : State ι) : Prop where
  rooted : ∀ q x, s.files (q ++ [x]) ≠ none → s.dirs q = true
  lockFile : s.files lockPath = none ∨ s.files lockPath = some []
  known : ∀ q c sha, s.files q = some c → named c = .str sha → Known s₀ s q sha
  newest : ∀ q sw, s.switches.find? (fun sw => sw.path = q) = some sw → s.files q = some sw.after

namespace FileInv

omit [DecidableEq ι]

variable {s₀ s : State ι}

/-- A pointer that was switched is there. -/
theorem exists_of_switched (h : FileInv s₀ s) {sw : Switch ι} (hsw : sw ∈ s.switches) :
    s.files sw.path ≠ none := by
  have hfind : (s.switches.find? fun sw' => sw'.path = sw.path).isSome = true :=
    List.find?_isSome.2 ⟨sw, hsw, by simp⟩
  obtain ⟨sw', hsw'⟩ := Option.isSome_iff_exists.1 hfind
  rw [h.newest _ sw' hsw']
  simp

/-- A file is made where none was. -/
theorem create (h : FileInv s₀ s) {q : Path} {c : Bytes} (hnone : s.files q = none)
    (hdir : ∀ q' x, q = q' ++ [x] → s.dirs q' = true) (hlock : q ≠ lockPath)
    (hnamed : ∀ sha, named c = .str sha → Known s₀ s q sha) : FileInv s₀ (s.setFile q (some c)) := by
  refine ⟨fun q' x hq' => ?_, ?_, fun q' c' sha hc' hsha => ?_, fun q' sw hsw => ?_⟩
  · by_cases heq : q' ++ [x] = q
    · exact hdir q' x heq.symm
    · rw [State.setFile_of_ne _ _ heq] at hq'
      exact h.rooted q' x hq'
  · rw [State.setFile_of_ne _ _ hlock.symm]
    exact h.lockFile
  · by_cases heq : q' = q
    · subst heq
      rw [State.setFile_self] at hc'
      cases hc'
      exact hnamed sha hsha
    · rw [State.setFile_of_ne _ _ heq] at hc'
      exact h.known q' c' sha hc' hsha
  · by_cases heq : q' = q
    · subst heq
      rw [h.newest q' sw hsw] at hnone
      cases hnone
    · rw [State.setFile_of_ne _ _ heq]
      exact h.newest q' sw hsw

/-- A file is taken away that is neither the file of the lock nor a pointer. -/
theorem remove (h : FileInv s₀ s) {q : Path} (hlock : q ≠ lockPath)
    (hfree : ∀ sw ∈ s.switches, sw.path ≠ q) : FileInv s₀ (s.setFile q none) := by
  refine ⟨fun q' x hq' => ?_, ?_, fun q' c' sha hc' hsha => ?_, fun q' sw hsw => ?_⟩
  · by_cases heq : q' ++ [x] = q
    · rw [heq, State.setFile_self] at hq'
      exact absurd rfl hq'
    · rw [State.setFile_of_ne _ _ heq] at hq'
      exact h.rooted q' x hq'
  · rw [State.setFile_of_ne _ _ hlock.symm]
    exact h.lockFile
  · by_cases heq : q' = q
    · rw [heq, State.setFile_self] at hc'
      cases hc'
    · rw [State.setFile_of_ne _ _ heq] at hc'
      exact h.known q' c' sha hc' hsha
  · have hpath : sw.path = q' := by simpa using List.find?_some hsw
    have hne : q' ≠ q := hpath ▸ hfree sw (List.mem_of_find?_eq_some hsw)
    rw [State.setFile_of_ne _ _ hne]
    exact h.newest q' sw hsw

/-- More directories are there. -/
theorem dirs (h : FileInv s₀ s) {dirs : Path → Bool} (hdirs : ∀ q, s.dirs q = true → dirs q = true) :
    FileInv s₀ { s with dirs := dirs } :=
  ⟨fun q x hq => hdirs q (h.rooted q x hq), h.lockFile, h.known, h.newest⟩

/-- A directory without files is taken away. -/
theorem removeDir (h : FileInv s₀ s) {q : Path} (hempty : ∀ x, s.files (q ++ [x]) = none) :
    FileInv s₀ (s.setDir q false) := by
  refine ⟨fun q' x hq' => ?_, h.lockFile, h.known, h.newest⟩
  have hne : q' ≠ q := by
    rintro rfl
    exact hq' (hempty x)
  rw [State.setDir_of_ne _ _ hne]
  exact h.rooted q' x hq'

end FileInv

/-! ### The calls -/

/-- The pointer of a call is as it has read it, and nobody has switched it since. -/
def Current (s : State ι) (i : ι) (p : Plan) : Prop :=
  ∃ r l, s.reading i = some r ∧ r.path = p.pointerPath ∧ s.files p.pointerPath = some r.content ∧
    s.switches = l ++ r.seen ∧ ∀ sw ∈ l, sw.path ≠ p.pointerPath

/-- A file of a call: neither the file of the lock nor the pointer of the call, nor one that was
switched. -/
def Free (s : State ι) (p : Plan) (q : Path) : Prop :=
  q ≠ lockPath ∧ q ≠ p.pointerPath ∧ ∀ sw ∈ s.switches, sw.path ≠ q

/-- A call has read a pointer. -/
structure HasRead (s : State ι) (i : ι) (b : Bound) : Prop where
  reading : ∃ r, s.reading i = some r ∧ r.path = b.pointerPath
  loaded : PyJson.Loaded b.pointer
  isDict : b.pointer.isDict = true
  plans : s.plans i = none

/-- What holds for a call where it is. -/
def Local (s : State ι) (i : ι) : Phase → Prop
  | .start => s.reading i = none ∧ s.held i = none ∧ s.plans i = none
  | .bound b => HasRead s i b ∧ s.held i = none
  | .consumed b a => HasRead s i b ∧ s.held i = some a.nonce ∧
      NonceLedger.isNonceRef a.nonce = true ∧ IsText a.payloadSha
  | .prepared p | .locked p => s.plans i = some p
  | .cleared p => s.plans i = some p ∧ Current s i p ∧ s.pathExists p.outputDir = false
  | .staged p dir => s.plans i = some p ∧ Current s i p ∧ s.pathExists p.outputDir = false ∧
      dir ≠ p.outputDir ∧ (∀ x, s.files (dir ++ [x]) ≠ none →
        dir ++ [x] = receiptPath dir ∨ dir ++ [x] = transitionPath dir) ∧
      Free s p (receiptPath dir) ∧ Free s p (transitionPath dir)
  | .published p => s.plans i = some p ∧ Current s i p ∧
      s.files (receiptPath p.outputDir) = some p.receiptFile ∧ receiptPath p.outputDir ≠ p.pointerPath
  | .written p | .rechecked p => s.plans i = some p ∧ Current s i p ∧
      s.files (receiptPath p.outputDir) = some p.receiptFile ∧ Free s p p.tmpPath ∧
      p.tmpPath ≠ receiptPath p.outputDir ∧ receiptPath p.outputDir ≠ p.pointerPath
  | .switched p => s.plans i = some p ∧ s.files p.pointerPath = some p.pointerFile ∧
      s.files (receiptPath p.outputDir) = some p.receiptFile ∧ Switched s i
  | .returned _ | .raised => True

/-- A call that may have switched its pointer. -/
def Phase.late : Phase → Bool
  | .switched _ | .returned _ | .raised => true
  | _ => false

/-- The path of the pointer a call is asked to switch. -/
def PointerPath (σ : Setting ι) (i : ι) (path : Path) : Prop :=
  safePath σ.links ((σ.calls i).request.get "active_pointer_ref") false = .ok path

/-- The directory a call is asked to publish. -/
def OutputDir (σ : Setting ι) (i : ι) (dir : Path) : Prop :=
  safePath σ.links ((σ.calls i).request.get "promotion_output_ref") true = .ok dir

/-- What a call has read: the pointer its request asks for, and no content that anybody switches it to. -/
structure ReadOk (σ : Setting ι) (s₀ s : State ι) (i : ι) (r : Reading ι) : Prop where
  path : PointerPath σ i r.path
  hashed : r.content ∈ s.pointersHashed
  digest : pyEq (.str (Sha256.hexdigest r.content))
    ((σ.calls i).request.get "active_pointer_sha256") = true
  notLock : r.path ≠ lockPath
  since : ∃ l, s.switches = l ++ r.seen ∧ ∀ sw ∈ l, sw.path = r.path → sw.after ≠ r.content
  known : ∀ sha, named r.content = .str sha → Known s₀ s r.path sha

/-- A call with a plan: it was made from what the call has read, for the nonce it holds. -/
def PlanOk (σ : Setting ι) (s : State ι) (i : ι) (p : Plan) : Prop :=
  ∃ b a r, Makes σ.lib (σ.calls i) b a p ∧ s.held i = some a.nonce ∧ s.reading i = some r ∧
    r.path = p.pointerPath ∧ p.receiptBytes ∈ s.receiptsHashed ∧ OutputDir σ i p.outputDir

/-- A switch replaced what its call had read, as the call had planned, and nobody has switched the pointer
in between. -/
def SwitchOk (s : State ι) (sw : Switch ι) (before : List (Switch ι)) : Prop :=
  ∃ r l, s.reading sw.call = some r ∧ sw.path = r.path ∧ sw.before = r.content ∧ before = l ++ r.seen ∧
    (∀ sw' ∈ l, sw'.path ≠ sw.path) ∧ ∃ p, s.plans sw.call = some p

/-- What every reachable state satisfies. -/
structure Inv (σ : Setting ι) (s₀ s : State ι) : Prop extends FileInv s₀ s where
  exclusive : SingleUse.Exclusive s₀.ledger.used s.ledger.used s.held
  nonce : ∀ i k, s.held i = some k →
    ((σ.calls i).request.get "promotion_authorization").get "nonce_ref" = .str k
  locked : ∀ i, (s.phase i).holds = true → s.lock = some i ∧ s.files lockPath ≠ none
  here : ∀ i, Local s i (s.phase i)
  planned : ∀ i p, s.plans i = some p → PlanOk σ s i p
  readings : ∀ i r, s.reading i = some r → ReadOk σ s₀ s i r
  late : ∀ i, Switched s i → (s.phase i).late = true
  switched : ∀ l sw before, s.switches = l ++ sw :: before → SwitchOk s sw before
  passed : ∀ i preview out, s.phase i = .returned (.pass preview out) → Switched s i

section Frame

variable {σ : Setting ι} {s₀ s s' : State ι} {i j : ι}

omit [DecidableEq ι] in
/-- What a call has of its own stays, and what it shares stays while it holds the lock. -/
theorem Local.frame {phase : Phase} (hreading : s'.reading j = s.reading j)
    (hheld : s'.held j = s.held j) (hplans : s'.plans j = s.plans j)
    (hshared : phase.holds = true → s'.files = s.files ∧ s'.dirs = s.dirs ∧ s'.switches = s.switches)
    (h : Local s j phase) : Local s' j phase := by
  have hread : ∀ {b}, HasRead s j b → HasRead s' j b := fun hb =>
    ⟨hreading ▸ hb.reading, hb.loaded, hb.isDict, hplans ▸ hb.plans⟩
  have hexists : s'.files = s.files → s'.dirs = s.dirs → ∀ q, s'.pathExists q = s.pathExists q := by
    intro hfiles hdirs q
    rw [State.pathExists, State.pathExists, hfiles, hdirs]
  cases phase with
  | start => simpa only [Local, hreading, hheld, hplans] using h
  | bound b => exact ⟨hread h.1, hheld ▸ h.2⟩
  | consumed b a => exact ⟨hread h.1, hheld ▸ h.2.1, h.2.2⟩
  | prepared p => exact hplans.trans h
  | locked p => exact hplans.trans h
  | cleared p =>
      obtain ⟨hfiles, hdirs, hswitches⟩ := hshared rfl
      simpa only [Local, Current, hreading, hplans, hfiles, hswitches, hexists hfiles hdirs] using h
  | staged p dir =>
      obtain ⟨hfiles, hdirs, hswitches⟩ := hshared rfl
      simpa only [Local, Current, Free, hreading, hplans, hfiles, hswitches, hexists hfiles hdirs] using h
  | published p =>
      obtain ⟨hfiles, hdirs, hswitches⟩ := hshared rfl
      simpa only [Local, Current, Free, hreading, hplans, hfiles, hswitches] using h
  | written p =>
      obtain ⟨hfiles, hdirs, hswitches⟩ := hshared rfl
      simpa only [Local, Current, Free, hreading, hplans, hfiles, hswitches] using h
  | rechecked p =>
      obtain ⟨hfiles, hdirs, hswitches⟩ := hshared rfl
      simpa only [Local, Current, Free, hreading, hplans, hfiles, hswitches] using h
  | switched p =>
      obtain ⟨hfiles, hdirs, hswitches⟩ := hshared rfl
      simpa only [Local, Switched, hplans, hfiles, hswitches] using h
  | returned o => trivial
  | raised => trivial

omit [DecidableEq ι] in
theorem Known.mono {q : Path} {sha : PyStr} (hplans : ∀ j p, s.plans j = some p → s'.plans j = some p)
    (hswitched : ∀ j, Switched s j → Switched s' j) (h : Known s₀ s q sha) : Known s₀ s' q sha := by
  rcases h with hold | ⟨j, p, hp, hsha, hq⟩
  · exact .inl hold
  · exact .inr ⟨j, p, hplans j p hp, hsha, hq.imp_right (hswitched j)⟩

/-- What a step of a call leaves as it was, and what it adds to what is kept. -/
structure Keeps (s s' : State ι) (i : ι) : Prop where
  phase : ∀ j, j ≠ i → s'.phase j = s.phase j
  reading : ∀ j, j ≠ i → s'.reading j = s.reading j
  held : ∀ j, j ≠ i → s'.held j = s.held j
  plans : ∀ j, j ≠ i → s'.plans j = s.plans j
  readings : ∀ r, s.reading i = some r → s'.reading i = some r
  nonces : ∀ k, s.held i = some k → s'.held i = some k
  planned : ∀ p, s.plans i = some p → s'.plans i = some p
  pointersHashed : s.pointersHashed ⊆ s'.pointersHashed
  receiptsHashed : s.receiptsHashed ⊆ s'.receiptsHashed

omit [DecidableEq ι] in
/-- The invariant after a step of a call that switches nothing. -/
theorem Inv.step_of (h : Inv σ s₀ s) (hkeeps : Keeps s s' i) (hswitches : s'.switches = s.switches)
    (hshared : ∀ j, j ≠ i → (s.phase j).holds = true →
      s'.files = s.files ∧ s'.dirs = s.dirs ∧ s'.lock = some j)
    (hfiles : FileInv s₀ s')
    (hexclusive : SingleUse.Exclusive s₀.ledger.used s'.ledger.used s'.held)
    (hnonce : ∀ k, s'.held i = some k →
      ((σ.calls i).request.get "promotion_authorization").get "nonce_ref" = .str k)
    (hlocked : (s'.phase i).holds = true → s'.lock = some i ∧ s'.files lockPath ≠ none)
    (hhere : Local s' i (s'.phase i))
    (hplanned : ∀ p, s'.plans i = some p → PlanOk σ s' i p)
    (hreadings : ∀ r, s'.reading i = some r → ReadOk σ s₀ s' i r)
    (hlate : Switched s i → (s'.phase i).late = true)
    (hpassed : ∀ preview out, s'.phase i = .returned (.pass preview out) → Switched s i) :
    Inv σ s₀ s' := by
  have hall : ∀ j p, s.plans j = some p → s'.plans j = some p := by
    intro j p hp
    by_cases hj : j = i
    · subst hj
      exact hkeeps.planned p hp
    · rw [hkeeps.plans j hj, hp]
  have hreadAll : ∀ j r, s.reading j = some r → s'.reading j = some r := by
    intro j r hr
    by_cases hj : j = i
    · subst hj
      exact hkeeps.readings r hr
    · rw [hkeeps.reading j hj, hr]
  have hswitched : ∀ j, Switched s' j ↔ Switched s j := by
    intro j
    rw [Switched, Switched, hswitches]
  refine {
    toFileInv := hfiles, exclusive := hexclusive, nonce := fun j k hk => ?_, locked := fun j hj => ?_,
    here := fun j => ?_, planned := fun j p hp => ?_, readings := fun j r hr => ?_,
    late := fun j hj => ?_, switched := fun l sw before heq => ?_, passed := fun j preview out hj => ?_ }
  · by_cases hji : j = i
    · subst hji
      exact hnonce k hk
    · rw [hkeeps.held j hji] at hk
      exact h.nonce j k hk
  · by_cases hji : j = i
    · subst hji
      exact hlocked hj
    · rw [hkeeps.phase j hji] at hj
      obtain ⟨hfiles', -, hlock⟩ := hshared j hji hj
      exact ⟨hlock, by rw [hfiles']; exact (h.locked j hj).2⟩
  · by_cases hji : j = i
    · subst hji
      exact hhere
    · rw [hkeeps.phase j hji]
      refine (h.here j).frame (hkeeps.reading j hji) (hkeeps.held j hji) (hkeeps.plans j hji) fun hj => ?_
      obtain ⟨hfiles', hdirs, -⟩ := hshared j hji hj
      exact ⟨hfiles', hdirs, hswitches⟩
  · by_cases hji : j = i
    · subst hji
      exact hplanned p hp
    · rw [hkeeps.plans j hji] at hp
      obtain ⟨b, a, r, hmakes, hheld, hread, hpath, hreceipt, hout⟩ := h.planned j p hp
      exact ⟨b, a, r, hmakes, (hkeeps.held j hji).trans hheld, hreadAll j r hread, hpath,
        hkeeps.receiptsHashed hreceipt, hout⟩
  · by_cases hji : j = i
    · subst hji
      exact hreadings r hr
    · rw [hkeeps.reading j hji] at hr
      have hok := h.readings j r hr
      refine ⟨hok.path, hkeeps.pointersHashed hok.hashed, hok.digest, hok.notLock, hswitches ▸ hok.since, ?_⟩
      exact fun sha hsha => (hok.known sha hsha).mono hall fun k => (hswitched k).2
  · by_cases hji : j = i
    · subst hji
      exact hlate ((hswitched j).1 hj)
    · rw [hkeeps.phase j hji]
      exact h.late j ((hswitched j).1 hj)
  · rw [hswitches] at heq
    obtain ⟨r, l', hread, hpath, hcontent, hbefore, hsince, p, hp⟩ := h.switched l sw before heq
    exact ⟨r, l', hreadAll _ r hread, hpath, hcontent, hbefore, hsince, p, hall _ p hp⟩
  · by_cases hji : j = i
    · subst hji
      exact (hswitched j).2 (hpassed preview out hj)
    · rw [hkeeps.phase j hji] at hj
      exact (hswitched j).2 (h.passed j preview out hj)

/-- The invariant after a step that changes no file. -/
theorem Inv.quiet (h : Inv σ s₀ s) (i : ι) {phase : Phase} {lock : Option ι} {hashed : List Bytes}
    (hhashed : s.pointersHashed ⊆ hashed)
    (hlock : ∀ j, j ≠ i → (s.phase j).holds = true → lock = some j)
    (hholds : phase.holds = true → lock = some i ∧ s.files lockPath ≠ none) (hlocal : Local s i phase)
    (hlate : Switched s i → phase.late = true)
    (hpassed : ∀ preview out, phase = .returned (.pass preview out) → Switched s i) :
    Inv σ s₀ { s with
      phase := Function.update s.phase i phase, lock := lock, pointersHashed := hashed } := by
  have hself : Function.update s.phase i phase i = phase := Function.update_self _ _ _
  have hframe : Local { s with
      phase := Function.update s.phase i phase, lock := lock, pointersHashed := hashed } i phase :=
    Local.frame (s := s) rfl rfl rfl (fun _ => ⟨rfl, rfl, rfl⟩) hlocal
  refine h.step_of (i := i) ⟨fun j hj => Function.update_of_ne hj _ _, fun _ _ => rfl, fun _ _ => rfl,
    fun _ _ => rfl, fun _ hr => hr, fun _ hk => hk, fun _ hp => hp, hhashed, List.Subset.refl _⟩ rfl
    (fun j hj hheld => ⟨rfl, rfl, hlock j hj hheld⟩)
    ⟨h.rooted, h.lockFile, h.known, h.newest⟩ h.exclusive (h.nonce i) ?_ ?_ (h.planned i) ?_ ?_ ?_
  · intro hheld
    exact hholds (hself ▸ hheld)
  · change Local _ i (Function.update s.phase i phase i)
    rw [Function.update_self]
    exact hframe
  · intro r hr
    have hok := h.readings i r hr
    exact ⟨hok.path, hhashed hok.hashed, hok.digest, hok.notLock, hok.since, hok.known⟩
  · intro hswitched
    change (Function.update s.phase i phase i).late = true
    rw [hself]
    exact hlate hswitched
  · intro preview out hphase
    exact hpassed preview out (hself ▸ hphase)

omit [DecidableEq ι] in
/-- A call that has the lock is the only one that holds it. -/
theorem Inv.alone (h : Inv σ s₀ s) (hi : (s.phase i).holds = true) (j : ι) (hj : j ≠ i) :
    (s.phase j).holds = false := by
  by_contra hheld
  rw [Bool.not_eq_false] at hheld
  have hlock := (h.locked i hi).1
  rw [(h.locked j hheld).1, Option.some.injEq] at hlock
  exact hj hlock

/-- A call that gives the lock back leaves it to the others. -/
theorem Inv.lock_others (h : Inv σ s₀ s) (j : ι) (hj : j ≠ i) (hheld : (s.phase j).holds = true) :
    (if s.lock = some i then none else s.lock) = some j := by
  have hlock := (h.locked j hheld).1
  rw [if_neg, hlock]
  rw [hlock, Option.some.injEq]
  exact hj

/-- The invariant when a call ends. -/
theorem Inv.ended (h : Inv σ s₀ s) (i : ι) {phase : Phase}
    (hphase : phase = .raised ∨ ∃ o, phase = .returned o)
    (hpassed : ∀ preview out, phase = .returned (.pass preview out) → Switched s i) :
    Inv σ s₀ ((s.go i phase).unlock i) := by
  refine h.quiet i (List.Subset.refl _) h.lock_others (fun hheld => ?_) ?_ (fun _ => ?_) hpassed
  · rcases hphase with rfl | ⟨o, rfl⟩
    · cases hheld
    · cases hheld
  · rcases hphase with rfl | ⟨o, rfl⟩
    · trivial
    · trivial
  · rcases hphase with rfl | ⟨o, rfl⟩
    · rfl
    · rfl

theorem Inv.finish (h : Inv σ s₀ s) (i : ι) (e : Fault) : Inv σ s₀ (s.finish i e) := by
  cases e with
  | own reason =>
      refine h.ended i (.inr ⟨_, rfl⟩) fun preview out heq => ?_
      cases heq
  | builtin b =>
      refine h.ended i (.inl rfl) fun preview out heq => ?_
      cases heq

end Frame

/-! ### The steps -/

section Steps

variable {σ : Setting ι} {s₀ s : State ι}

theorem of_readBound {links : Path → Bool} {files : Path → Option Bytes} {ref expected : PyVal}
    {path : Path} {data : Bytes} (h : readBound links files ref expected = .ok (path, data)) :
    safePath links ref false = .ok path ∧ files path = some data ∧
      pyEq (.str (Sha256.hexdigest data)) expected = true := by
  unfold readBound at h
  split at h
  · next digest =>
      rw [bind_eq_ok_iff] at h
      obtain ⟨-, -, h⟩ := h
      rw [bind_eq_ok_iff] at h
      obtain ⟨path', hsafe, h⟩ := h
      split at h
      · cases h
      · next data' hdata =>
          rw [bind_eq_ok_iff] at h
          obtain ⟨_, hraise, h⟩ := h
          cases h
          exact ⟨hsafe, hdata, pyEq_str.2 (congrArg PyVal.str (not_not.1 (raiseIf_eq_ok_iff.1 hraise)))⟩
  · cases h

/-- What a call has read is an object, and its hash is the one of the request. -/
theorem of_bind {links : Path → Bool} {request : PyVal} {seen : Observed} {files : Path → Option Bytes}
    {b : Bound} (h : bind links request seen files = .ok b) :
    safePath links (request.get "active_pointer_ref") false = .ok b.pointerPath ∧
      files b.pointerPath = some b.content ∧
      pyEq (.str (Sha256.hexdigest b.content)) (request.get "active_pointer_sha256") = true ∧
      PyJson.loadsBytes b.content = some b.pointer ∧ b.pointer.isDict = true := by
  rw [bind] at h
  obtain ⟨_, -, h⟩ := bind_eq_ok_iff.1 h
  obtain ⟨_, -, h⟩ := bind_eq_ok_iff.1 h
  obtain ⟨_, -, h⟩ := bind_eq_ok_iff.1 h
  obtain ⟨candidate, -, h⟩ := bind_eq_ok_iff.1 h
  obtain ⟨decision, -, h⟩ := bind_eq_ok_iff.1 h
  obtain ⟨_, -, h⟩ := bind_eq_ok_iff.1 h
  obtain ⟨_, -, h⟩ := bind_eq_ok_iff.1 h
  obtain ⟨formal, -, h⟩ := bind_eq_ok_iff.1 h
  obtain ⟨_, -, h⟩ := bind_eq_ok_iff.1 h
  obtain ⟨current, -, h⟩ := bind_eq_ok_iff.1 h
  obtain ⟨target, -, h⟩ := bind_eq_ok_iff.1 h
  obtain ⟨pointer, hpointer, h⟩ := bind_eq_ok_iff.1 h
  cases h
  rw [readJsonBound, bind_eq_ok_iff] at hpointer
  obtain ⟨⟨path, data⟩, hread, hpointer⟩ := hpointer
  obtain ⟨hsafe, hfile, hhash⟩ := of_readBound hread
  dsimp only at hpointer
  split at hpointer
  · cases hpointer
  · next v hloads =>
      rw [bind_eq_ok_iff] at hpointer
      obtain ⟨_, hraise, hpointer⟩ := hpointer
      cases hpointer
      exact ⟨hsafe, hfile, hhash, hloads, by simpa using raiseIf_eq_ok_iff.1 hraise⟩

omit [DecidableEq ι] in
/-- A call that has not switched yet. -/
theorem Inv.not_switched (h : Inv σ s₀ s) {i : ι} {phase : Phase} (hphase : s.phase i = phase)
    (hearly : phase.late = false) : ¬Switched s i := by
  intro hswitched
  have hlate := h.late i hswitched
  rw [hphase, hearly] at hlate
  cases hlate

theorem loadsBytes_nil : PyJson.loadsBytes [] = none := rfl

/-- A call reads its pointer. -/
theorem Inv.bind (h : Inv σ s₀ s) {i : ι} {seen : Observed} {b : Bound} (hphase : s.phase i = .start)
    (hbind : GovernedPromotion.bind σ.links (σ.calls i).request seen s.files = .ok b) :
    Inv σ s₀ { s.go i (.bound b) with
      reading := Function.update s.reading i (some ⟨b.pointerPath, b.content, s.switches⟩)
      pointersHashed := b.content :: s.pointersHashed } := by
  obtain ⟨hsafe, hfile, hdigest, hloads, hisDict⟩ := of_bind hbind
  have hstart := h.here i
  rw [hphase] at hstart
  obtain ⟨hreading, hheld, hplans⟩ := hstart
  have hnotLock : b.pointerPath ≠ lockPath := by
    intro heq
    rw [heq] at hfile
    rcases h.lockFile with hnone | hempty
    · rw [hnone] at hfile
      cases hfile
    · rw [hempty, Option.some.injEq] at hfile
      rw [← hfile, loadsBytes_nil] at hloads
      cases hloads
  refine h.step_of (i := i) ⟨fun j hj => s.go_of_ne hj _, fun j hj => Function.update_of_ne hj _ _,
    fun _ _ => rfl, fun _ _ => rfl, fun r hr => ?_, fun _ hk => hk, fun _ hp => hp,
    List.subset_cons_self _ _, List.Subset.refl _⟩ rfl
    (fun j hj hheld => ⟨rfl, rfl, (h.locked j hheld).1⟩) ⟨h.rooted, h.lockFile, h.known, h.newest⟩
    h.exclusive (h.nonce i) ?_ ?_ ?_ ?_ ?_ ?_
  · rw [hreading] at hr
    cases hr
  · intro hheld
    rw [show _ = Phase.bound b from s.go_self i _] at hheld
    cases hheld
  · rw [show _ = Phase.bound b from s.go_self i _]
    exact ⟨⟨⟨_, Function.update_self _ _ _, rfl⟩, PyJson.loaded_loadsBytes hloads, hisDict, hplans⟩, hheld⟩
  · intro p hp
    change s.plans i = some p at hp
    rw [hplans] at hp
    cases hp
  · intro r hr
    change Function.update s.reading i _ i = some r at hr
    rw [Function.update_self] at hr
    cases hr
    exact ⟨hsafe, List.mem_cons_self, hdigest, hnotLock, ⟨[], rfl, by simp⟩, fun sha hsha =>
      h.known _ _ sha hfile hsha⟩
  · exact fun hswitched => absurd hswitched (h.not_switched hphase rfl)
  · intro preview out heq
    rw [show _ = Phase.bound b from s.go_self i _] at heq
    cases heq

theorem nonce_of_authorize {lib : Library} {request : PyVal} {input : Input} {a : Authorization}
    (h : authorize lib request input = .ok a) :
    (request.get "promotion_authorization").get "nonce_ref" = .str a.nonce ∧
      NonceLedger.isNonceRef a.nonce = true ∧ IsText a.payloadSha := by
  rw [authorize] at h
  dsimp only at h
  obtain ⟨_, -, h⟩ := bind_eq_ok_iff.1 h
  obtain ⟨_, -, h⟩ := bind_eq_ok_iff.1 h
  split at h
  · next nonce hnonce =>
      obtain ⟨_, hraise, h⟩ := bind_eq_ok_iff.1 h
      obtain ⟨_, -, h⟩ := bind_eq_ok_iff.1 h
      obtain ⟨_, -, h⟩ := bind_eq_ok_iff.1 h
      obtain ⟨_, -, h⟩ := bind_eq_ok_iff.1 h
      obtain ⟨_, -, h⟩ := bind_eq_ok_iff.1 h
      obtain ⟨_, -, h⟩ := bind_eq_ok_iff.1 h
      obtain ⟨_, -, h⟩ := bind_eq_ok_iff.1 h
      obtain ⟨_, -, h⟩ := bind_eq_ok_iff.1 h
      obtain ⟨_, -, h⟩ := bind_eq_ok_iff.1 h
      cases h
      exact ⟨hnonce, by simpa using raiseIf_eq_ok_iff.1 hraise, isText_of_ascii (ascii_hexdigest _)⟩
  · cases h

/-- A call consumes its nonce. -/
theorem Inv.consume (h : Inv σ s₀ s) {i : ι} {b : Bound} {input : Input} {a : Authorization} {fails : Bool}
    (hphase : s.phase i = .bound b) (hauthorize : authorize σ.lib (σ.calls i).request input = .ok a)
    (hmark : (s.ledger.markUsedOrReplay fails a.nonce a.payloadSha a.now a.ttl).1 = true) :
    Inv σ s₀ { s.go i (.consumed b a) with
      ledger := (s.ledger.markUsedOrReplay fails a.nonce a.payloadSha a.now a.ttl).2
      held := Function.update s.held i (some a.nonce) } := by
  obtain ⟨hnonce, href, htext⟩ := nonce_of_authorize hauthorize
  obtain ⟨hused, hfresh, -⟩ := NonceLedger.used_of_mark hmark
  have hbound := h.here i
  rw [hphase] at hbound
  obtain ⟨hread, hheld⟩ := hbound
  refine h.step_of (i := i) ⟨fun j hj => s.go_of_ne hj _, fun _ _ => rfl,
    fun j hj => Function.update_of_ne hj _ _, fun _ _ => rfl, fun _ hr => hr, fun k hk => ?_,
    fun _ hp => hp, List.Subset.refl _, List.Subset.refl _⟩ rfl
    (fun j hj hheld => ⟨rfl, rfl, (h.locked j hheld).1⟩) ⟨h.rooted, h.lockFile, h.known, h.newest⟩
    ?_ ?_ ?_ ?_ ?_ ?_ ?_ ?_
  · rw [hheld] at hk
    cases hk
  · refine h.exclusive.enter hfresh ?_ ?_
    · rw [hused]
      exact List.subset_append_left _ _
    · rw [hused]
      exact List.mem_append_right _ List.mem_cons_self
  · intro k hk
    change Function.update s.held i _ i = some k at hk
    rw [Function.update_self] at hk
    cases hk
    exact hnonce
  · intro hheld
    rw [show _ = Phase.consumed b a from s.go_self i _] at hheld
    cases hheld
  · rw [show _ = Phase.consumed b a from s.go_self i _]
    exact ⟨⟨hread.reading, hread.loaded, hread.isDict, hread.plans⟩, Function.update_self _ _ _, href, htext⟩
  · intro p hp
    change s.plans i = some p at hp
    rw [hread.plans] at hp
    cases hp
  · intro r hr
    have hok := h.readings i r hr
    exact ⟨hok.path, hok.hashed, hok.digest, hok.notLock, hok.since, hok.known⟩
  · exact fun hswitched => absurd hswitched (h.not_switched hphase rfl)
  · intro preview out heq
    rw [show _ = Phase.consumed b a from s.go_self i _] at heq
    cases heq

theorem outputDir_of_prepare {lib : Library} {pid : PyStr} {request : PyVal} {b : Bound}
    {a : Authorization} {out : Path} {p : Plan} (h : prepare lib pid request b a out = .ok p) :
    p.outputDir = out := by
  rw [prepare] at h
  obtain ⟨_, -, h⟩ := bind_eq_ok_iff.1 h
  obtain ⟨_, -, h⟩ := bind_eq_ok_iff.1 h
  obtain ⟨_, -, h⟩ := bind_eq_ok_iff.1 h
  obtain ⟨_, -, h⟩ := bind_eq_ok_iff.1 h
  obtain ⟨_, -, h⟩ := bind_eq_ok_iff.1 h
  obtain ⟨_, -, h⟩ := bind_eq_ok_iff.1 h
  cases h
  rfl

/-- A call makes its plan. -/
theorem Inv.prepare (h : Inv σ s₀ s) {i : ι} {b : Bound} {a : Authorization} {out : Path} {p : Plan}
    (hphase : s.phase i = .consumed b a) (houtput : OutputDir σ i out)
    (hprepare : prepare σ.lib (σ.calls i).pid (σ.calls i).request b a out = .ok p) :
    Inv σ s₀ { s.go i (if (σ.calls i).dryRun then .returned (.dryRun p.preview) else .prepared p) with
      plans := Function.update s.plans i (some p)
      receiptsHashed := p.receiptBytes :: s.receiptsHashed } := by
  have hconsumed := h.here i
  rw [hphase] at hconsumed
  obtain ⟨hread, hheld, href, htext⟩ := hconsumed
  have hmakes : Makes σ.lib (σ.calls i) b a p := ⟨href, htext, hread.loaded, hread.isDict, out, hprepare⟩
  obtain ⟨-, -, -, -, -, -, -, -, -, -, -, -, -, -, -, hpath, -⟩ := hmakes.spec
  obtain ⟨r, hreading, hrpath⟩ := hread.reading
  have hkept : ∀ j q, s.plans j = some q → Function.update s.plans i (some p) j = some q := by
    intro j q hq
    by_cases hji : j = i
    · rw [hji, hread.plans] at hq
      cases hq
    · rw [Function.update_of_ne hji, hq]
  generalize hnext : (if (σ.calls i).dryRun then Phase.returned (.dryRun p.preview) else .prepared p) = next
  have hcases : next = .returned (.dryRun p.preview) ∨ next = .prepared p := by
    rw [← hnext]
    split_ifs
    · exact .inl rfl
    · exact .inr rfl
  refine h.step_of (i := i) ⟨fun j hj => s.go_of_ne hj _, fun _ _ => rfl, fun _ _ => rfl,
    fun j hj => Function.update_of_ne hj _ _, fun _ hr => hr, fun _ hk => hk, fun q hq => ?_,
    List.Subset.refl _, List.subset_cons_self _ _⟩ rfl
    (fun j hj hheld => ⟨rfl, rfl, (h.locked j hheld).1⟩) ⟨h.rooted, h.lockFile, ?_, h.newest⟩
    h.exclusive (h.nonce i) ?_ ?_ ?_ ?_ (fun hswitched => absurd hswitched (h.not_switched hphase rfl)) ?_
  · rw [hread.plans] at hq
    cases hq
  · exact fun q c sha hc hsha => (h.known q c sha hc hsha).mono hkept fun _ => id
  · intro hholds
    rw [show _ = next from s.go_self i _] at hholds
    rcases hcases with rfl | rfl
    · cases hholds
    · cases hholds
  · rw [show _ = next from s.go_self i _]
    rcases hcases with rfl | rfl
    · trivial
    · exact Function.update_self _ _ _
  · intro q hq
    change Function.update s.plans i _ i = some q at hq
    rw [Function.update_self] at hq
    cases hq
    exact ⟨b, a, r, hmakes, hheld, hreading, hrpath.trans hpath.symm, List.mem_cons_self,
      (outputDir_of_prepare hprepare).symm ▸ houtput⟩
  · intro r hr
    have hok := h.readings i r hr
    exact ⟨hok.path, hok.hashed, hok.digest, hok.notLock, hok.since, fun sha hsha =>
      (hok.known sha hsha).mono hkept fun _ => id⟩
  · intro preview out heq
    rw [show _ = next from s.go_self i _] at heq
    rcases hcases with rfl | rfl
    · cases heq
    · cases heq

/-- A call takes the lock. -/
theorem Inv.acquire (h : Inv σ s₀ s) {i : ι} {p : Plan} (hphase : s.phase i = .prepared p)
    (hlock : s.lock = none) :
    Inv σ s₀ { ((s.makeDirs promotions).setFile lockPath (some ((s.files lockPath).getD []))).go i
        (.locked p) with
      lock := some i } := by
  have hplan := h.here i
  rw [hphase] at hplan
  have hempty : (s.files lockPath).getD [] = [] := by
    rcases h.lockFile with hnone | hsome
    · rw [hnone]
      rfl
    · rw [hsome]
      rfl
  have halone : ∀ j, (s.phase j).holds = true → False := by
    intro j hj
    have := (h.locked j hj).1
    rw [hlock] at this
    cases this
  have hpath : ∀ sw ∈ s.switches, sw.path ≠ lockPath := by
    intro sw hsw
    obtain ⟨l, before, heq⟩ := List.append_of_mem hsw
    obtain ⟨r, -, hread, hpath, -⟩ := h.switched l sw before heq
    rw [hpath]
    exact (h.readings _ r hread).notLock
  rw [hempty]
  have hdirs : FileInv s₀ (s.makeDirs promotions) :=
    h.toFileInv.dirs fun q hq => by rw [hq, Bool.true_or]
  have hfiles : FileInv s₀ ((s.makeDirs promotions).setFile lockPath (some [])) := by
    refine ⟨fun q x hq => ?_, .inr (State.setFile_self _ _ _), fun q c sha hc hsha => ?_, fun q sw hsw => ?_⟩
    · by_cases heq : q ++ [x] = lockPath
      · have hpre : q = promotions := (List.append_inj' heq rfl).1
        rw [hpre]
        exact Bool.or_eq_true_iff.2 (.inr (by decide))
      · rw [State.setFile_of_ne _ _ heq] at hq
        exact hdirs.rooted q x hq
    · by_cases heq : q = lockPath
      · rw [heq, State.setFile_self] at hc
        cases hc
        rw [named, loadsBytes_nil] at hsha
        cases hsha
      · rw [State.setFile_of_ne _ _ heq] at hc
        exact hdirs.known q c sha hc hsha
    · have hq : sw.path = q := by simpa using List.find?_some hsw
      have hne : q ≠ lockPath := hq ▸ hpath sw (List.mem_of_find?_eq_some hsw)
      rw [State.setFile_of_ne _ _ hne]
      exact hdirs.newest q sw hsw
  refine h.step_of (i := i) ⟨fun j hj => State.go_of_ne _ hj _, fun _ _ => rfl, fun _ _ => rfl,
    fun _ _ => rfl, fun _ hr => hr, fun _ hk => hk, fun _ hq => hq, List.Subset.refl _,
    List.Subset.refl _⟩ rfl (fun j _ hheld => (halone j hheld).elim)
    ⟨hfiles.rooted, hfiles.lockFile, hfiles.known, hfiles.newest⟩
    h.exclusive (h.nonce i) ?_ ?_ (h.planned i) ?_ (fun hswitched => absurd hswitched (h.not_switched hphase rfl)) ?_
  · intro _
    refine ⟨rfl, ?_⟩
    change ((s.makeDirs promotions).setFile lockPath (some [])).files lockPath ≠ none
    rw [State.setFile_self]
    simp
  · rw [show _ = Phase.locked p from State.go_self _ i _]
    exact hplan
  · intro r hr
    have hok := h.readings i r hr
    exact ⟨hok.path, hok.hashed, hok.digest, hok.notLock, hok.since, hok.known⟩
  · intro preview out heq
    rw [show _ = Phase.locked p from State.go_self _ i _] at heq
    cases heq

/-- No two of some contents have the same hash. -/
def NoCollision (l : List Bytes) : Prop :=
  ∀ a ∈ l, ∀ b ∈ l, Sha256.hexdigest a = Sha256.hexdigest b → a = b

omit [DecidableEq ι] in
/-- A call that finds the pointer with the hash of its request finds it as it has read it: whoever had
switched it since would have left another content. -/
theorem Inv.current (h : Inv σ s₀ s) {i : ι} {p : Plan} {content : Bytes} (hplan : s.plans i = some p)
    (hfile : s.files p.pointerPath = some content)
    (hhash : pyEq (.str (Sha256.hexdigest content))
      ((σ.calls i).request.get "active_pointer_sha256") = true)
    (hcoll : NoCollision (content :: s.pointersHashed)) : Current s i p := by
  obtain ⟨b, a, r, -, -, hread, hpath, -⟩ := h.planned i p hplan
  have hok := h.readings i r hread
  have hsame : content = r.content := by
    refine hcoll _ List.mem_cons_self _ (List.mem_cons_of_mem _ hok.hashed) ?_
    have hcontent := pyEq_str.1 (pyEq_symm hhash)
    rw [pyEq_str.1 (pyEq_symm hok.digest), PyVal.str.injEq] at hcontent
    exact hcontent.symm
  obtain ⟨l, hl, hafter⟩ := hok.since
  refine ⟨r, l, hread, hpath, hsame ▸ hfile, hl, fun sw hsw hswPath => ?_⟩
  have hfind : (l.find? fun sw => sw.path = p.pointerPath).isSome = true :=
    List.find?_isSome.2 ⟨sw, hsw, by simpa using hswPath⟩
  obtain ⟨last, hlast⟩ := Option.isSome_iff_exists.1 hfind
  have hnewest := h.newest p.pointerPath last (by rw [hl, List.find?_append, hlast]; rfl)
  have hlastPath : last.path = p.pointerPath := by simpa using List.find?_some hlast
  rw [hfile, Option.some.injEq] at hnewest
  exact hafter last (List.mem_of_find?_eq_some hlast) (hlastPath.trans hpath.symm)
    (hnewest.symm.trans hsame)

/-- A call finds the pointer as it should be. -/
theorem Inv.clear (h : Inv σ s₀ s) {i : ι} {p : Plan} {content : Bytes} (hphase : s.phase i = .locked p)
    (hexists : s.pathExists p.outputDir = false) (hfile : s.files p.pointerPath = some content)
    (hhash : pyEq (.str (Sha256.hexdigest content))
      ((σ.calls i).request.get "active_pointer_sha256") = true)
    (hcoll : NoCollision (content :: s.pointersHashed)) :
    Inv σ s₀ { s.go i (.cleared p) with pointersHashed := content :: s.pointersHashed } := by
  have hplan := h.here i
  rw [hphase] at hplan
  refine h.quiet i (List.subset_cons_self _ _) (fun j _ hheld => (h.locked j hheld).1) (fun _ => ?_)
    ⟨hplan, h.current hplan hfile hhash hcoll, hexists⟩
    (fun hswitched => absurd hswitched (h.not_switched hphase rfl)) fun preview out heq => ?_
  · exact h.locked i (by rw [hphase]; rfl)
  · cases heq

/-- A call looks at the pointer once more. -/
theorem Inv.recheck (h : Inv σ s₀ s) {i : ι} {p : Plan} {content : Bytes}
    (hphase : s.phase i = .written p) :
    Inv σ s₀ { s.go i (.rechecked p) with pointersHashed := content :: s.pointersHashed } := by
  have hwritten := h.here i
  rw [hphase] at hwritten
  refine h.quiet i (List.subset_cons_self _ _) (fun j _ hheld => (h.locked j hheld).1) (fun _ => ?_)
    hwritten (fun hswitched => absurd hswitched (h.not_switched hphase rfl)) fun preview out heq => ?_
  · exact h.locked i (by rw [hphase]; rfl)
  · cases heq

/-- The invariant after a step of the call that holds the lock, if it changes files only. -/
theorem Inv.files_step (h : Inv σ s₀ s) {i : ι} {phase : Phase} (hphase : s.phase i = phase)
    (hholds : phase.holds = true) (hearly : phase.late = false) {files : Path → Option Bytes}
    {dirs : Path → Bool} {next : Phase} (hfiles : FileInv s₀ { s with files := files, dirs := dirs })
    (hlock : files lockPath ≠ none) (hlocal : Local { s with files := files, dirs := dirs } i next)
    (hnext : ∀ o, next ≠ .returned o) :
    Inv σ s₀ { s with files := files, dirs := dirs, phase := Function.update s.phase i next } := by
  have hi : (s.phase i).holds = true := by rw [hphase, hholds]
  refine h.step_of (i := i) ⟨fun j hj => Function.update_of_ne hj _ _, fun _ _ => rfl, fun _ _ => rfl,
    fun _ _ => rfl, fun _ hr => hr, fun _ hk => hk, fun _ hq => hq, List.Subset.refl _,
    List.Subset.refl _⟩ rfl (fun j hj hheld => ?_)
    ⟨hfiles.rooted, hfiles.lockFile, hfiles.known, hfiles.newest⟩ h.exclusive (h.nonce i) ?_ ?_
    (h.planned i) ?_ (fun hswitched => absurd hswitched (h.not_switched hphase hearly)) ?_
  · rw [h.alone hi j hj] at hheld
    cases hheld
  · exact fun _ => ⟨(h.locked i hi).1, hlock⟩
  · change Local _ i (Function.update s.phase i next i)
    rw [Function.update_self]
    exact Local.frame (s := { s with files := files, dirs := dirs }) rfl rfl rfl
      (fun _ => ⟨rfl, rfl, rfl⟩) hlocal
  · intro r hr
    have hok := h.readings i r hr
    exact ⟨hok.path, hok.hashed, hok.digest, hok.notLock, hok.since, hok.known⟩
  · intro preview out heq
    change Function.update s.phase i next i = _ at heq
    rw [Function.update_self] at heq
    exact absurd heq (hnext _)

/-- The names in a directory are different. -/
theorem receiptPath_ne_transitionPath (dir : Path) : receiptPath dir ≠ transitionPath dir := by
  intro heq
  have hlast := List.append_cancel_left heq
  exact absurd hlast (by decide)

theorem stagingDir_ne (out : Path) (random : PyStr) : stagingDir out random ≠ out := by
  intro heq
  rcases List.eq_nil_or_concat out with rfl | ⟨init, last, rfl⟩
  · simp [stagingDir] at heq
  · rw [stagingDir, List.concat_eq_append, List.dropLast_concat, List.getLastD_concat] at heq
    have hlast := List.append_cancel_left heq
    have hlen := congrArg List.length (List.cons.inj hlast).1
    simp [cp] at hlen
    omega

/-- A call writes its receipt and its transition in a fresh directory. -/
theorem Inv.stage (h : Inv σ s₀ s) {i : ι} {p : Plan} {random : PyStr} (hphase : s.phase i = .cleared p)
    (hfresh : s.pathExists (stagingDir p.outputDir random) = false) :
    Inv σ s₀ ((((s.setDir (stagingDir p.outputDir random) true).setFile
      (receiptPath (stagingDir p.outputDir random)) (some p.receiptFile)).setFile
        (transitionPath (stagingDir p.outputDir random)) (some p.transitionFile)).go i
          (.staged p (stagingDir p.outputDir random))) := by
  have hcleared := h.here i
  rw [hphase] at hcleared
  obtain ⟨hplan, ⟨r, l, hread, hpath, hfile, hl, hsince⟩, hout⟩ := hcleared
  obtain ⟨b, a, -, hmakes, -⟩ := h.planned i p hplan
  have hne := stagingDir_ne p.outputDir random
  generalize hdir : stagingDir p.outputDir random = dir at *
  rw [State.pathExists_eq_false] at hfresh hout
  have hlock := (h.locked i (by rw [hphase]; rfl)).2
  -- nothing is in the fresh directory
  have hnone : ∀ x, s.files (dir ++ [x]) = none := by
    intro x
    by_contra hx
    rw [h.rooted dir x hx] at hfresh
    cases hfresh.1
  have hother : ∀ {q}, s.files q ≠ none → ∀ x, q ≠ dir ++ [x] := by
    rintro q hq x rfl
    exact hq (hnone x)
  have hfree : ∀ x, Free s p (dir ++ [x]) := by
    intro x
    refine ⟨(hother hlock x).symm, ?_, fun sw hsw => hother (h.exists_of_switched hsw) x⟩
    exact (hother (by rw [hfile]; simp) x).symm
  have hin : ∀ {q x y}, dir ++ [y] = q ++ [x] → q = dir := fun heq => (List.append_inj' heq rfl).1.symm
  have hfiles₁ : FileInv s₀ (s.setDir dir true) := h.toFileInv.dirs fun q hq => by
    by_cases heq : q = dir
    · rw [heq, Function.update_self]
    · rw [Function.update_of_ne heq, hq]
  have hfiles₂ : FileInv s₀ ((s.setDir dir true).setFile (receiptPath dir) (some p.receiptFile)) := by
    refine hfiles₁.create (hnone _) (fun q x heq => ?_) (hfree _).1 fun sha hsha => ?_
    · rw [hin heq, State.setDir_self]
    · exact absurd hsha (hmakes.named_receiptFile sha)
  have hfiles₃ : FileInv s₀ (((s.setDir dir true).setFile (receiptPath dir)
      (some p.receiptFile)).setFile (transitionPath dir) (some p.transitionFile)) := by
    refine hfiles₂.create ?_ (fun q x heq => ?_) (hfree _).1 fun sha hsha => ?_
    · rw [State.setFile_of_ne _ _ (receiptPath_ne_transitionPath dir).symm]
      exact hnone _
    · rw [hin heq]
      exact State.setDir_self _ _ _
    · exact absurd hsha (hmakes.named_transitionFile sha)
  have hkeep : ∀ {q}, (∀ x, q ≠ dir ++ [x]) → (((s.setDir dir true).setFile (receiptPath dir)
      (some p.receiptFile)).setFile (transitionPath dir) (some p.transitionFile)).files q = s.files q := by
    intro q hq
    have hreceipt : q ≠ receiptPath dir := hq _
    have htransition : q ≠ transitionPath dir := hq _
    rw [State.setFile_of_ne _ _ htransition, State.setFile_of_ne _ _ hreceipt]
    rfl
  refine h.files_step hphase rfl rfl hfiles₃ ?_ ⟨hplan, ⟨r, l, hread, hpath, ?_, hl, hsince⟩, ?_, hne, ?_,
    hfree _, hfree _⟩ fun o heq => by cases heq
  · rw [show _ = s.files lockPath from hkeep (hother hlock)]
    exact hlock
  · exact (hkeep (hother (by rw [hfile]; simp))).trans hfile
  · refine (State.pathExists_eq_false _ _).2 ⟨?_, ?_⟩
    · exact (State.setDir_of_ne s dir hne.symm true).trans hout.1
    · refine (hkeep fun x heq => ?_).trans hout.2
      have hlen := congrArg List.length heq
      rw [← hdir, stagingDir] at hlen
      simp at hlen
      omega
  · intro x hx
    by_contra hboth
    rw [not_or] at hboth
    refine hx ?_
    change (((s.setDir dir true).setFile (receiptPath dir) (some p.receiptFile)).setFile
      (transitionPath dir) (some p.transitionFile)).files (dir ++ [x]) = none
    rw [State.setFile_of_ne _ _ hboth.2, State.setFile_of_ne _ _ hboth.1]
    exact hnone x

/-- A call gives the fresh directory its name. -/
theorem Inv.publish (h : Inv σ s₀ s) {i : ι} {p : Plan} {dir : Path}
    (hphase : s.phase i = .staged p dir) :
    Inv σ s₀ (((((((s.setDir p.outputDir true).setFile (receiptPath dir) none).setFile
      (transitionPath dir) none).setDir dir false).setFile (receiptPath p.outputDir)
        (some p.receiptFile)).setFile (transitionPath p.outputDir) (some p.transitionFile)).go i
          (.published p)) := by
  have hstaged := h.here i
  rw [hphase] at hstaged
  obtain ⟨hplan, ⟨r, l, hread, hpath, hfile, hl, hsince⟩, hout, hne, honly, hfreeR, hfreeT⟩ := hstaged
  obtain ⟨b, a, -, hmakes, -⟩ := h.planned i p hplan
  rw [State.pathExists_eq_false] at hout
  have hlock := (h.locked i (by rw [hphase]; rfl)).2
  -- nothing is in the output directory
  have hnone : ∀ x, s.files (p.outputDir ++ [x]) = none := by
    intro x
    by_contra hx
    rw [h.rooted p.outputDir x hx] at hout
    cases hout.1
  have hother : ∀ {q}, s.files q ≠ none → ∀ x, q ≠ p.outputDir ++ [x] := by
    rintro q hq x rfl
    exact hq (hnone x)
  have hin : ∀ {q x y}, p.outputDir ++ [y] = q ++ [x] → q = p.outputDir := fun heq =>
    (List.append_inj' heq rfl).1.symm
  have hfiles₁ : FileInv s₀ (s.setDir p.outputDir true) := h.toFileInv.dirs fun q hq => by
    by_cases heq : q = p.outputDir
    · rw [heq, Function.update_self]
    · rw [Function.update_of_ne heq, hq]
  have hfiles₃ := (hfiles₁.remove hfreeR.1 hfreeR.2.2).remove hfreeT.1 hfreeT.2.2
  generalize ht : ((s.setDir p.outputDir true).setFile (receiptPath dir) none).setFile
    (transitionPath dir) none = t at hfiles₃ ⊢
  have hgone : ∀ q, t.files q = if q = receiptPath dir ∨ q = transitionPath dir then none else s.files q := by
    intro q
    rw [← ht]
    split_ifs with hq
    · by_cases hT : q = transitionPath dir
      · rw [hT, State.setFile_self]
      · rw [State.setFile_of_ne _ _ hT, hq.resolve_right hT, State.setFile_self]
    · rw [not_or] at hq
      rw [State.setFile_of_ne _ _ hq.2, State.setFile_of_ne _ _ hq.1]
      rfl
  have hnone' : ∀ {q}, s.files q = none → t.files q = none := by
    intro q hq
    rw [hgone, hq, ite_self]
  have hfiles₄ : FileInv s₀ (t.setDir dir false) := by
    refine hfiles₃.removeDir fun x => ?_
    rw [hgone]
    split_ifs with hx
    · rfl
    · by_contra hfile
      exact hx (honly x hfile)
  have hdirOut : (t.setDir dir false).dirs p.outputDir = true := by
    rw [State.setDir_of_ne _ _ hne.symm, ← ht]
    exact State.setDir_self _ _ _
  have hkeepT : ∀ {q}, q ≠ receiptPath dir → q ≠ transitionPath dir → (t.setDir dir false).files q = s.files q := by
    intro q hR hT
    change t.files q = _
    rw [hgone, if_neg (not_or.2 ⟨hR, hT⟩)]
  have hfiles₅ : FileInv s₀ ((t.setDir dir false).setFile (receiptPath p.outputDir)
      (some p.receiptFile)) := by
    refine hfiles₄.create (hnone' (hnone _)) (fun q x heq => ?_) (hother hlock _).symm fun sha hsha => ?_
    · rw [hin heq, hdirOut]
    · exact absurd hsha (hmakes.named_receiptFile sha)
  have hfiles₆ : FileInv s₀ (((t.setDir dir false).setFile (receiptPath p.outputDir)
      (some p.receiptFile)).setFile (transitionPath p.outputDir) (some p.transitionFile)) := by
    refine hfiles₅.create ?_ (fun q x heq => ?_) (hother hlock _).symm fun sha hsha => ?_
    · rw [State.setFile_of_ne _ _ (receiptPath_ne_transitionPath _).symm]
      exact hnone' (hnone _)
    · rw [hin heq]
      exact hdirOut
    · exact absurd hsha (hmakes.named_transitionFile sha)
  have hkeep : ∀ {q}, s.files q ≠ none → q ≠ receiptPath dir → q ≠ transitionPath dir →
      (((t.setDir dir false).setFile (receiptPath p.outputDir) (some p.receiptFile)).setFile
        (transitionPath p.outputDir) (some p.transitionFile)).files q = s.files q := by
    intro q hq hR hT
    have hreceipt : q ≠ receiptPath p.outputDir := hother hq _
    have htransition : q ≠ transitionPath p.outputDir := hother hq _
    rw [State.setFile_of_ne _ _ htransition, State.setFile_of_ne _ _ hreceipt, hkeepT hR hT]
  have hpointer : s.files p.pointerPath ≠ none := by
    rw [hfile]
    simp
  subst ht
  refine h.files_step hphase rfl rfl hfiles₆ ?_ ⟨hplan, ⟨r, l, hread, hpath, ?_, hl, hsince⟩, ?_, ?_⟩
    fun o heq => by cases heq
  · rw [show _ = s.files lockPath from hkeep hlock hfreeR.1.symm hfreeT.1.symm]
    exact hlock
  · exact (hkeep hpointer hfreeR.2.1.symm hfreeT.2.1.symm).trans hfile
  · exact (State.setFile_of_ne _ _ (receiptPath_ne_transitionPath _) _).trans (State.setFile_self _ _ _)
  · exact (hother hpointer _).symm

/-- A call writes the next pointer in a fresh file. -/
theorem Inv.write (h : Inv σ s₀ s) {i : ι} {p : Plan} (hphase : s.phase i = .published p)
    (hfresh : s.pathExists p.tmpPath = false) :
    Inv σ s₀ (((s.makeDirs p.tmpPath.dropLast).setFile p.tmpPath (some p.pointerFile)).go i
      (.written p)) := by
  have hpublished := h.here i
  rw [hphase] at hpublished
  obtain ⟨hplan, ⟨r, l, hread, hpath, hfile, hl, hsince⟩, hreceipt, hnotPointer⟩ := hpublished
  obtain ⟨b, a, -, hmakes, -⟩ := h.planned i p hplan
  rw [State.pathExists_eq_false] at hfresh
  have hlock := (h.locked i (by rw [hphase]; rfl)).2
  have hother : ∀ {q}, s.files q ≠ none → q ≠ p.tmpPath := by
    rintro q hq rfl
    exact hq hfresh.2
  have hpointer : s.files p.pointerPath ≠ none := by
    rw [hfile]
    simp
  have hfiles₁ : FileInv s₀ (s.makeDirs p.tmpPath.dropLast) :=
    h.toFileInv.dirs fun q hq => by rw [hq, Bool.true_or]
  have hfiles₂ : FileInv s₀ ((s.makeDirs p.tmpPath.dropLast).setFile p.tmpPath (some p.pointerFile)) := by
    refine hfiles₁.create hfresh.2 (fun q x heq => ?_) (hother hlock).symm fun sha hsha => ?_
    · change (s.dirs q || q.isPrefixOf p.tmpPath.dropLast) = true
      rw [heq, List.dropLast_concat, Bool.or_eq_true]
      exact .inr (List.isPrefixOf_iff_prefix.2 List.prefix_rfl)
    · rw [hmakes.named_pointerFile, PyVal.str.injEq] at hsha
      exact .inr ⟨i, p, hplan, hsha, .inl rfl⟩
  have hkeep : ∀ {q}, s.files q ≠ none →
      ((s.makeDirs p.tmpPath.dropLast).setFile p.tmpPath (some p.pointerFile)).files q = s.files q :=
    fun hq => State.setFile_of_ne _ _ (hother hq) _
  have hreceiptThere : s.files (receiptPath p.outputDir) ≠ none := by
    rw [hreceipt]
    simp
  refine h.files_step hphase rfl rfl hfiles₂ ?_ ⟨hplan, ⟨r, l, hread, hpath, ?_, hl, hsince⟩, ?_,
    ⟨(hother hlock).symm, (hother hpointer).symm, fun sw hsw => hother (h.exists_of_switched hsw)⟩,
    (hother hreceiptThere).symm, hnotPointer⟩ fun o heq => by cases heq
  · rw [show _ = s.files lockPath from hkeep hlock]
    exact hlock
  · exact (hkeep hpointer).trans hfile
  · exact (hkeep hreceiptThere).trans hreceipt

/-- A call takes its fresh file away. -/
theorem Inv.unlink (h : Inv σ s₀ s) {i : ι} {p : Plan} (hphase : s.phase i = .written p) :
    Inv σ s₀ (s.setFile p.tmpPath none) := by
  have hwritten := h.here i
  rw [hphase] at hwritten
  obtain ⟨hplan, ⟨r, l, hread, hpath, hfile, hl, hsince⟩, hreceipt, hfree, htmp, hnotPointer⟩ := hwritten
  have hlock := (h.locked i (by rw [hphase]; rfl)).2
  have hkeep : ∀ {q}, q ≠ p.tmpPath → (s.setFile p.tmpPath none).files q = s.files q := fun hq =>
    State.setFile_of_ne _ _ hq _
  have hstep : Inv σ s₀ { s.setFile p.tmpPath none with
      phase := Function.update s.phase i (.written p) } :=
    h.files_step hphase rfl rfl (h.toFileInv.remove hfree.1 hfree.2.2)
    (fun heq => hlock ((hkeep hfree.1.symm).symm.trans heq))
    ⟨hplan, ⟨r, l, hread, hpath, (hkeep hfree.2.1.symm).trans hfile, hl, hsince⟩,
      (hkeep htmp.symm).trans hreceipt, hfree, htmp, hnotPointer⟩ fun o heq => by cases heq
  rw [← hphase, Function.update_eq_self] at hstep
  exact hstep

omit [DecidableEq ι] in
/-- What a call has read is not what another call is about to write: that names a receipt whose nonce the
other call holds, and it is in no file but that of the other call. -/
theorem Inv.fresh_content (h : Inv σ s₀ s) {i j : ι} {p : Plan} {r : Reading ι}
    (hphase : s.phase i = .rechecked p) (hcoll : NoCollision s.receiptsHashed)
    (hread : s.reading j = some r) (hpath : p.pointerPath = r.path) : p.pointerFile ≠ r.content := by
  intro heq
  have hrechecked := h.here i
  rw [hphase] at hrechecked
  obtain ⟨hplan, -, -, hfree, -⟩ := hrechecked
  obtain ⟨b, a, -, hmakes, hheld, -, -, hreceipt, -⟩ := h.planned i p hplan
  obtain ⟨-, -, -, -, -, -, -, -, -, -, -, hsha, -⟩ := hmakes.spec
  have hknown := (h.readings j r hread).known p.receiptSha (heq ▸ hmakes.named_pointerFile)
  rcases hknown with hold | ⟨k, q, hq, hqsha, hqpath⟩
  · exact h.exclusive.fresh i a.nonce hheld
      (hold p.receiptBytes a.nonce hsha.symm hmakes.receiptNonce_receiptBytes)
  · obtain ⟨b', a', -, hmakes', hheld', -, -, hreceipt', -⟩ := h.planned k q hq
    obtain ⟨-, -, -, -, -, -, -, -, -, -, -, hsha', -⟩ := hmakes'.spec
    have hbytes : q.receiptBytes = p.receiptBytes :=
      hcoll _ hreceipt' _ hreceipt (by rw [← hsha', ← hsha, hqsha])
    have hnonce : a'.nonce = a.nonce := by
      have hsame := hmakes'.receiptNonce_receiptBytes
      rw [hbytes, hmakes.receiptNonce_receiptBytes, PyVal.str.injEq] at hsame
      exact hsame.symm
    obtain rfl := h.exclusive.exclusive k i a.nonce (hnonce ▸ hheld') hheld
    rw [hplan, Option.some.injEq] at hq
    subst hq
    rcases hqpath with htmp | hswitched
    · exact hfree.2.1 (htmp.symm.trans hpath.symm)
    · exact h.not_switched hphase rfl hswitched

/-- A call switches its pointer. -/
theorem Inv.switch (h : Inv σ s₀ s) {i : ι} {p : Plan} {content : Bytes}
    (hphase : s.phase i = .rechecked p) (hfile : s.files p.pointerPath = some content)
    (hcoll : NoCollision s.receiptsHashed) :
    Inv σ s₀ { ((s.setFile p.tmpPath none).setFile p.pointerPath (some p.pointerFile)).go i
        (.switched p) with
      switches := ⟨i, p.pointerPath, content, p.pointerFile⟩ :: s.switches } := by
  have hrechecked := h.here i
  rw [hphase] at hrechecked
  obtain ⟨hplan, ⟨r, l, hread, hpath, hcontent, hl, hsince⟩, hreceipt, hfree, htmp, hnotPointer⟩ :=
    hrechecked
  obtain ⟨b, a, -, hmakes, -⟩ := h.planned i p hplan
  have hi : (s.phase i).holds = true := by
    rw [hphase]
    rfl
  have hlock := h.locked i hi
  have hnotLock : p.pointerPath ≠ lockPath := hpath ▸ (h.readings i r hread).notLock
  generalize hs' : ({ ((s.setFile p.tmpPath none).setFile p.pointerPath (some p.pointerFile)).go i
      (.switched p) with
    switches := ⟨i, p.pointerPath, content, p.pointerFile⟩ :: s.switches } : State ι) = s'
  have hnew : s'.files p.pointerPath = some p.pointerFile := by
    rw [← hs']
    exact State.setFile_self _ _ _
  have hkeep : ∀ {q}, q ≠ p.pointerPath → q ≠ p.tmpPath → s'.files q = s.files q := by
    intro q hq hqtmp
    rw [← hs']
    exact (State.setFile_of_ne _ _ hq _).trans (State.setFile_of_ne _ _ hqtmp _)
  have hgone : s'.files p.tmpPath = none := by
    rw [← hs']
    exact (State.setFile_of_ne _ _ hfree.2.1 _).trans (State.setFile_self _ _ _)
  have hswitches : s'.switches = ⟨i, p.pointerPath, content, p.pointerFile⟩ :: s.switches := by rw [← hs']
  have hphases : ∀ j, j ≠ i → s'.phase j = s.phase j := by
    intro j hj
    rw [← hs']
    exact State.go_of_ne _ hj _
  have hself : s'.phase i = .switched p := by
    rw [← hs']
    exact State.go_self _ i _
  have hplans : s'.plans = s.plans := by rw [← hs']; rfl
  have hreading : s'.reading = s.reading := by rw [← hs']; rfl
  have hheld : s'.held = s.held := by rw [← hs']; rfl
  have hdirs : s'.dirs = s.dirs := by rw [← hs']; rfl
  have hledger : s'.ledger = s.ledger := by rw [← hs']; rfl
  have hlocks : s'.lock = s.lock := by rw [← hs']; rfl
  have hpointers : s'.pointersHashed = s.pointersHashed := by rw [← hs']; rfl
  have hreceipts : s'.receiptsHashed = s.receiptsHashed := by rw [← hs']; rfl
  clear hs'
  have hgrown : ∀ j, Switched s j → Switched s' j := by
    rintro j ⟨sw, hsw, rfl⟩
    exact ⟨sw, hswitches ▸ List.mem_cons_of_mem _ hsw, rfl⟩
  have hknown : ∀ {q sha}, Known s₀ s q sha → Known s₀ s' q sha := fun hq =>
    hq.mono (fun j p hp => hplans ▸ hp) hgrown
  have hfilesInv : FileInv s₀ s' := by
    refine ⟨fun q x hq => ?_, ?_, fun q c sha hc hsha => ?_, fun q sw hsw => ?_⟩
    · rw [hdirs]
      by_cases heq : q ++ [x] = p.pointerPath
      · exact h.rooted q x (by rw [heq, hfile]; simp)
      · by_cases heqTmp : q ++ [x] = p.tmpPath
        · rw [heqTmp] at hq
          exact absurd hgone hq
        · rw [hkeep heq heqTmp] at hq
          exact h.rooted q x hq
    · rw [hkeep hnotLock.symm hfree.1.symm]
      exact h.lockFile
    · by_cases heq : q = p.pointerPath
      · rw [heq, hnew] at hc
        cases hc
        rw [hmakes.named_pointerFile, PyVal.str.injEq] at hsha
        exact .inr ⟨i, p, hplans ▸ hplan, hsha, .inr ⟨_, hswitches ▸ List.mem_cons_self, rfl⟩⟩
      · by_cases heqTmp : q = p.tmpPath
        · rw [heqTmp, hgone] at hc
          cases hc
        · rw [hkeep heq heqTmp] at hc
          exact hknown (h.known q c sha hc hsha)
    · rw [hswitches, List.find?_cons] at hsw
      split at hsw
      · next hq =>
          cases hsw
          rw [← of_decide_eq_true hq]
          exact hnew
      · next hq =>
          have hswPath : sw.path = q := by simpa using List.find?_some hsw
          have hqTmp : q ≠ p.tmpPath := hswPath ▸ hfree.2.2 sw (List.mem_of_find?_eq_some hsw)
          rw [hkeep (Ne.symm (of_decide_eq_false hq)) hqTmp]
          exact h.newest q sw hsw
  refine {
    toFileInv := hfilesInv, exclusive := by rw [hledger, hheld]; exact h.exclusive,
    nonce := by rw [hheld]; exact h.nonce, locked := fun j hj => ?_, here := fun j => ?_,
    planned := fun j q hq => ?_, readings := fun j r' hr' => ?_, late := fun j hj => ?_,
    switched := fun l' sw before heq => ?_, passed := fun j preview out hj => ?_ }
  · by_cases hji : j = i
    · rw [hji, hlocks, hkeep hnotLock.symm hfree.1.symm]
      exact hlock
    · rw [hphases j hji, h.alone hi j hji] at hj
      cases hj
  · by_cases hji : j = i
    · rw [hji, hself]
      refine ⟨hplans ▸ hplan, hnew, ?_, ⟨_, hswitches ▸ List.mem_cons_self, rfl⟩⟩
      rw [hkeep hnotPointer htmp.symm]
      exact hreceipt
    · rw [hphases j hji]
      refine (h.here j).frame (by rw [hreading]) (by rw [hheld]) (by rw [hplans]) fun hj => ?_
      rw [h.alone hi j hji] at hj
      cases hj
  · rw [hplans] at hq
    obtain ⟨b', a', r', hmakes', hheld', hread', hpath', hreceipt', hout'⟩ := h.planned j q hq
    exact ⟨b', a', r', hmakes', hheld ▸ hheld', hreading ▸ hread', hpath', hreceipts ▸ hreceipt', hout'⟩
  · rw [hreading] at hr'
    have hok := h.readings j r' hr'
    obtain ⟨l₀, hl₀, hafter⟩ := hok.since
    refine ⟨hok.path, hpointers ▸ hok.hashed, hok.digest, hok.notLock,
      ⟨⟨i, p.pointerPath, content, p.pointerFile⟩ :: l₀, by rw [hswitches, hl₀]; rfl, ?_⟩,
      fun sha hsha => hknown (hok.known sha hsha)⟩
    rw [List.forall_mem_cons]
    exact ⟨fun hpath' => h.fresh_content hphase hcoll hr' hpath', hafter⟩
  · obtain ⟨sw, hsw, rfl⟩ := hj
    rw [hswitches] at hsw
    rcases List.mem_cons.1 hsw with rfl | hsw
    · rw [hself]
      rfl
    · have hne : sw.call ≠ i := fun heq => h.not_switched hphase rfl ⟨sw, hsw, heq⟩
      rw [hphases _ hne]
      exact h.late _ ⟨sw, hsw, rfl⟩
  · rw [hswitches] at heq
    cases l' with
    | nil =>
        cases heq
        refine ⟨r, l, hreading ▸ hread, hpath.symm, ?_, hl, hsince, p, hplans ▸ hplan⟩
        rw [hfile, Option.some.injEq] at hcontent
        exact hcontent
    | cons sw' l' =>
        obtain ⟨r', l₀, hread', hrest⟩ := h.switched l' sw before (List.cons.inj heq).2
        exact ⟨r', l₀, hreading ▸ hread', hplans ▸ hrest⟩
  · by_cases hji : j = i
    · rw [hji, hself] at hj
      cases hj
    · rw [hphases j hji] at hj
      exact hgrown j (h.passed j preview out hj)

/-- A call leaves its block. -/
theorem Inv.pass (h : Inv σ s₀ s) {i : ι} {p : Plan} (hphase : s.phase i = .switched p) :
    Inv σ s₀ ((s.go i (.returned (.pass p.preview p.outputDir))).unlock i) := by
  have hswitched := h.here i
  rw [hphase] at hswitched
  exact h.ended i (.inr ⟨_, rfl⟩) fun _ _ _ => hswitched.2.2.2

theorem NoCollision.mono {l l' : List Bytes} (h : NoCollision l') (hsub : l ⊆ l') : NoCollision l :=
  fun a ha b hb => h a (hsub ha) b (hsub hb)

/-- The invariant after a step. -/
theorem Inv.step (h : Inv σ s₀ s) {s' : State ι} (hstep : Step σ s s')
    (hpointers : NoCollision s'.pointersHashed) (hreceipts : NoCollision s'.receiptsHashed) :
    Inv σ s₀ s' := by
  cases hstep with
  | bind i seen b hphase hbind => exact h.bind hphase hbind
  | bindFails i _ e => exact h.finish i e
  | authorizeFails i _ _ e => exact h.finish i e
  | consume i b input a fails hphase hauthorize hmark => exact h.consume hphase hauthorize hmark
  | replay i => exact h.finish i _
  | outputFails i _ _ e => exact h.finish i e
  | collision i => exact h.finish i _
  | prepareFails i _ _ _ e => exact h.finish i e
  | prepare i b a out p hphase houtput _ hprepare => exact h.prepare hphase houtput hprepare
  | acquire i p hphase hlock => exact h.acquire hphase hlock
  | clear i p content hphase hexists hfile hhash => exact h.clear hphase hexists hfile hhash hpointers
  | clearFails i => exact h.finish i _
  | stage i p random hphase hfresh => exact h.stage hphase hfresh
  | publish i p dir hphase => exact h.publish hphase
  | write i p hphase hfresh => exact h.write hphase hfresh
  | recheck i p content hphase => exact h.recheck hphase
  | recheckFails i p _ hphase => exact (h.unlink hphase).finish i _
  | switch i p content hphase hfile => exact h.switch hphase hfile hreceipts
  | pass i p hphase => exact h.pass hphase
  | stop i =>
      refine h.ended i (.inl rfl) fun preview out heq => ?_
      cases heq

/-- A run: the calls take steps in any order. -/
abbrev Run (σ : Setting ι) : State ι → State ι → Prop := Relation.ReflTransGen (Step σ)

/-- The nonce of the authorization of a call. -/
def nonceRef (σ : Setting ι) (i : ι) : PyVal :=
  ((σ.calls i).request.get "promotion_authorization").get "nonce_ref"

end Steps

end Invariant

/-- Texts as they are, and no times. -/
def plainLibrary : Library where
  nfc s := s
  nfc_ascii _ _ := rfl
  nfc_name _ _ _ h := h
  nfc_text _ h := h
  fromisoformat _ := none
  utcText _ := none
  utcText_text _ _ h := nomatch h
  foreignKey := cp "None"
  foreignKey_text := isText_cp _

/-- Two calls with empty requests. -/
def emptyRequests : Setting Bool where
  lib := plainLibrary
  links _ := false
  calls _ := ⟨obj [], false, cp "1", Typed.obj (by simp)⟩

/-- An empty repository. -/
def emptyRepository : State Bool where
  files _ := none
  dirs _ := false
  ledger := ⟨[], false⟩
  lock := none
  phase _ := .start
  held _ := none
  reading _ := none
  plans _ := none
  switches := []
  pointersHashed := []
  receiptsHashed := []

section Lock

variable {ι : Type} [DecidableEq ι] {σ : Setting ι} {s s' : State ι}

/-- The lock belongs to the call that is between taking and leaving it, and else to none. -/
def Owned (s : State ι) : Prop := ∀ i, s.lock = some i ↔ (s.phase i).holds = true

/-- A call goes on, outside or inside. -/
theorem Owned.go (h : Owned s) (i : ι) {phase : Phase} (hsame : phase.holds = (s.phase i).holds)
    (hphase : s'.phase = Function.update s.phase i phase) (hlock : s'.lock = s.lock) : Owned s' := by
  intro j
  rw [hlock, hphase, h j]
  by_cases hj : j = i
  · rw [hj, Function.update_self, hsame]
  · rw [Function.update_of_ne hj]

/-- A call that leaves gives the lock back, and takes it from no other. -/
theorem Owned.leave (h : Owned s) (i : ι) {phase : Phase} (hout : phase.holds = false)
    (hphase : s'.phase = Function.update s.phase i phase)
    (hlock : s'.lock = if s.lock = some i then none else s.lock) : Owned s' := by
  intro j
  rw [hlock, hphase]
  by_cases hj : j = i
  · rw [hj, Function.update_self, hout]
    exact iff_of_false (by split_ifs with hi <;> simp [hi]) Bool.false_ne_true
  · rw [Function.update_of_ne hj, ← h j]
    split_ifs with hi
    · simp [hi, Ne.symm hj]
    · rfl

theorem Owned.finish (h : Owned s) (i : ι) (e : Fault) : Owned (s.finish i e) := by
  cases e with
  | own reason => exact h.leave i rfl rfl rfl
  | builtin b => exact h.leave i rfl rfl rfl

theorem Owned.step (h : Owned s) (hstep : Step σ s s') : Owned s' := by
  cases hstep with
  | bind i _ _ hphase => exact h.go i (by rw [hphase]; rfl) rfl rfl
  | consume i _ _ _ _ hphase => exact h.go i (by rw [hphase]; rfl) rfl rfl
  | prepare i _ _ _ _ hphase => exact h.go i (by rw [hphase]; split <;> rfl) rfl rfl
  | acquire i p hphase hlock =>
      intro j
      change some i = some j ↔ (Function.update s.phase i (.locked p) j).holds = true
      by_cases hj : j = i
      · rw [hj, Function.update_self]
        exact iff_of_true rfl rfl
      · rw [Function.update_of_ne hj, ← h j, hlock]
        simp [Ne.symm hj]
  | clear i _ _ hphase => exact h.go i (by rw [hphase]; rfl) rfl rfl
  | stage i _ _ hphase => exact h.go i (by rw [hphase]; rfl) rfl rfl
  | publish i _ _ hphase => exact h.go i (by rw [hphase]; rfl) rfl rfl
  | write i _ hphase => exact h.go i (by rw [hphase]; rfl) rfl rfl
  | recheck i _ _ hphase => exact h.go i (by rw [hphase]; rfl) rfl rfl
  | switch i _ _ hphase => exact h.go i (by rw [hphase]; rfl) rfl rfl
  | recheckFails i => exact h.leave i rfl rfl rfl
  | pass i => exact h.leave i rfl rfl rfl
  | stop i => exact h.leave i rfl rfl rfl
  | _ => exact h.finish _ _

end Lock

end GovernedPromotion
