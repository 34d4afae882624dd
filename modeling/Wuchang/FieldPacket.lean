/-
**The packets of the total field.**

A packet is a dictionary with the hash of its canonical text.  The text is the one of a JSON value with sorted
keys and raw text, and is hashed as UTF-8; a value that is no JSON, or that has a text which cannot be encoded,
has no hash.

Main definitions:

* `TotalField.canonicalSha256` — the hash of a value;
* `TotalField.finalizePacket` — a packet with its hash.

Main results:

* `TotalField.canonicalSha256_isOk_iff` — the values that have a hash;
* `TotalField.finalizePacket_isOk_iff` — the packets that can be finalized.
-/

import Wuchang.PyJson
import Wuchang.Sha256

set_option relaxedAutoImplicit false
set_option autoImplicit false

namespace TotalField

open Py

variable {ε : Type}

/-- `TOTAL_FIELD_FLOAT_AUTHORITY_DEPENDENCY` -/
def floatAuthorityDependency : PyVal := lit "NONE"

/-- `canonical_sha256` -/
def canonicalSha256 (v : PyVal) : Except (Raise ε) PyStr := do
  let payload ← PyJson.dumps PyJson.compact v
  let bytes ← encodeUtf8 payload
  pure (Sha256.hexdigest bytes)

/-- `_finalize_packet` -/
def finalizePacket (packet : List (String × PyVal)) : Except (Raise ε) PyVal := do
  let hash ← canonicalSha256 (obj packet)
  pure (.dict (setKey (cp "packet_sha256") (.str hash) (fields packet)))

/-- The hash of a value that has one. -/
def hashOf (v : PyVal) : PyStr := Sha256.hexdigest ((PyJson.write PyJson.compact v).flatMap utf8Char)

theorem encodable_hashOf (v : PyVal) : Encodable (hashOf v) := Sha256.encodable_hexdigest _

theorem canonicalSha256_ok {v : PyVal} (h : PyJson.Plain Encodable v) :
    canonicalSha256 v = (.ok (hashOf v) : Except (Raise ε) PyStr) := by
  rw [canonicalSha256, PyJson.dumps, if_pos h.serialisable, ok_bind,
    encodeUtf8_ok (h.encodable_write (encodable_cp _) (encodable_cp _))]
  rfl

/-- **The values that have a hash.** -/
theorem canonicalSha256_isOk_iff {v : PyVal} :
    (∃ hash, canonicalSha256 v = (.ok hash : Except (Raise ε) PyStr)) ↔ PyJson.Plain Encodable v := by
  refine ⟨?_, fun h => ⟨_, canonicalSha256_ok h⟩⟩
  rintro ⟨hash, h⟩
  obtain ⟨text, htext, h⟩ := bind_eq_ok_iff.1 h
  obtain ⟨bytes, hbytes, -⟩ := bind_eq_ok_iff.1 h
  rw [PyJson.dumps] at htext
  split_ifs at htext with hwritten
  obtain rfl := Except.ok.inj htext
  exact PyJson.plain_of_encodable_write rfl hwritten (encodeUtf8_isOk_iff.1 hbytes).1

/-- **The packets that can be finalized.** -/
theorem finalizePacket_isOk_iff {packet : List (String × PyVal)} :
    (∃ v, finalizePacket packet = (.ok v : Except (Raise ε) PyVal)) ↔
      ∀ p ∈ packet, PyJson.Plain Encodable p.2 := by
  rw [← PyJson.plain_obj_iff, ← @canonicalSha256_isOk_iff ε]
  constructor
  · rintro ⟨v, h⟩
    obtain ⟨hash, hhash, -⟩ := bind_eq_ok_iff.1 h
    exact ⟨hash, hhash⟩
  · rintro ⟨hash, hhash⟩
    exact ⟨_, bind_eq_ok_iff.2 ⟨hash, hhash, rfl⟩⟩

/-- The fields of a packet stay when it is finalized. -/
theorem get_finalizePacket {packet : List (String × PyVal)} {v : PyVal}
    (h : finalizePacket packet = (.ok v : Except (Raise ε) PyVal)) {k : String} (hk : k ≠ "packet_sha256") :
    v.get k = (obj packet).get k := by
  obtain ⟨hash, -, h⟩ := bind_eq_ok_iff.1 h
  obtain rfl := pure_eq_ok_iff.1 h
  have hne : cp k ≠ cp "packet_sha256" := fun heq => hk (cp_inj.1 heq)
  rw [PyVal.get, getItem_setKey, if_neg hne]
  rfl

end TotalField
