/-
**Chains of hashes.**

A record of a chain carries the head of the record before it.  When equal heads belong to records that are
the same, in the sense of a relation that determines what a record is linked to, the last head of a chain
determines the whole chain, up to that relation: two chains of one length are compared from the end.

Main definitions:

* `HashChain.Linked` — each record is linked to the head of the one before, the first one to an anchor;
* `HashChain.lastHead` — the head of the last record.

Main results:

* `HashChain.linked_concat` — a chain grows at the end;
* `HashChain.forall₂_of_lastHead` — the last head determines a chain of a given length.
-/

import Mathlib.Data.List.Induction
import Mathlib.Data.List.Forall2

set_option relaxedAutoImplicit false
set_option autoImplicit false

namespace HashChain

variable {R D : Type} {head link : R → D}

/-- Each record is linked to the head of the one before it. -/
def Linked (head link : R → D) (anchor : D) : List R → Prop
  | [] => True
  | r :: rs => link r = anchor ∧ Linked head link (head r) rs

/-- The head of the last record, or the anchor of an empty chain. -/
def lastHead (head : R → D) (anchor : D) : List R → D
  | [] => anchor
  | r :: rs => lastHead head (head r) rs

theorem lastHead_concat (anchor : D) (rs : List R) (r : R) :
    lastHead head anchor (rs ++ [r]) = head r := by
  induction rs generalizing anchor with
  | nil => rfl
  | cons s rs ih => exact ih (head s)

/-- A chain grows at the end. -/
theorem linked_concat {anchor : D} {rs : List R} {r : R} :
    Linked head link anchor (rs ++ [r]) ↔
      Linked head link anchor rs ∧ link r = lastHead head anchor rs := by
  induction rs generalizing anchor with
  | nil => simp [Linked, lastHead]
  | cons s rs ih => rw [List.cons_append, Linked, Linked, lastHead, ih, and_assoc]

/-- **The last head determines the chain.**  Two chains of one length with one anchor and one last head
hold the same records in the same order, if equal heads belong to the same records and the same records
are linked to the same head. -/
theorem forall₂_of_lastHead {Same : R → R → Prop} {anchor : D} {rs ss : List R}
    (hrs : Linked head link anchor rs) (hss : Linked head link anchor ss)
    (hlength : rs.length = ss.length) (hlast : lastHead head anchor rs = lastHead head anchor ss)
    (hsame : ∀ r ∈ rs, ∀ s ∈ ss, head r = head s → Same r s)
    (hlink : ∀ r ∈ rs, ∀ s ∈ ss, Same r s → link r = link s) : List.Forall₂ Same rs ss := by
  induction rs using List.reverseRecOn generalizing ss with
  | nil =>
      rw [List.eq_nil_of_length_eq_zero hlength.symm]
      exact .nil
  | append_singleton rs r ih =>
      cases ss using List.reverseRecOn with
      | nil => simp at hlength
      | append_singleton ss s =>
          rw [lastHead_concat, lastHead_concat] at hlast
          obtain ⟨hrs, hr⟩ := linked_concat.1 hrs
          obtain ⟨hss, hs⟩ := linked_concat.1 hss
          have hrecord : Same r s := hsame r (by simp) s (by simp) hlast
          -- the two records are linked to one head: the last head of both remainders
          have hbefore : lastHead head anchor rs = lastHead head anchor ss := by
            rw [← hr, ← hs]
            exact hlink r (by simp) s (by simp) hrecord
          have hinit := ih hrs hss (by simpa using hlength) hbefore
            (fun r hr s hs => hsame r (by simp [hr]) s (by simp [hs]))
            (fun r hr s hs => hlink r (by simp [hr]) s (by simp [hs]))
          exact List.rel_append hinit (.cons hrecord .nil)

end HashChain
