/-
**The values of a menu item.**

`menu_change_governance.py`: the values of a menu item are checked and put in a normal form, and values are
hashed in that form.

The normal form NFC of a text, the decimal digits of Unicode and the texts of values that are no texts are
parameters.

Main definitions:

* `MenuGovernance.normalize`, `MenuGovernance.stableSha256` — `_normalize` and `stable_sha256`;
* `MenuGovernance.menuValues` — `_menu_values`.
-/

import Wuchang.PyJson
import Wuchang.Sha256

set_option relaxedAutoImplicit false
set_option autoImplicit false

namespace MenuGovernance

open Py

/-- The exceptions of the module, and those of the code that uses it. -/
inductive Failure where
  | governance (reason : PyStr)
  | userError (message : String) (names : List PyStr)
  | missingRecord
  deriving DecidableEq, Repr

/-- An exception. -/
abbrev Fault := Raise Failure

/-- What the module uses of its surroundings. -/
structure Library where
  /-- `unicodedata.normalize("NFC", s)` -/
  nfc : PyStr → PyStr
  /-- the code points `\d` matches -/
  isDecimal : ℕ → Bool
  /-- `str(v)` of what is no text -/
  text : PyVal → PyStr

variable (lib : Library)

/-- `str(v)` -/
def Library.str (lib : Library) : PyVal → PyStr
  | .str s => s
  | v => lib.text v

/-- `raise MenuChangeGovernanceError(…)` -/
def governanceError {α : Type} (parts : List String) : Except Fault α :=
  .error (.own (.governance (parts.map cp).flatten))

/-! ### Hashes -/

mutual

/-- `_normalize` -/
def normalize : PyVal → PyVal
  | .str s => .str (lib.nfc s)
  | .dict items => .dict (normalizeItems [] items)
  | .list xs => .list (normalizeList xs)
  | v => v

/-- The elements of a list. -/
def normalizeList : List PyVal → List PyVal
  | [] => []
  | x :: xs => normalize x :: normalizeList xs

/-- The items of a dictionary, added to those that are there. -/
def normalizeItems (done : Items) : Items → Items
  | [] => done
  | (.str k, v) :: items => normalizeItems (setKey (lib.nfc k) (normalize v) done) items
  | (.other, v) :: items => normalizeItems (done ++ [(.other, normalize v)]) items

end

/-- `canonical_json` -/
def canonicalJson (v : PyVal) : Except Fault PyStr := do
  let json ← PyJson.dumps PyJson.compact (normalize lib v)
  if ¬PyJson.allFinite (normalize lib v) then .error (.builtin .valueError)
  else pure json

/-- `stable_sha256` -/
def stableSha256 (v : PyVal) : Except Fault PyStr := do
  let json ← canonicalJson lib v
  let bytes ← encodeUtf8 json
  pure (Sha256.hexdigest bytes)

/-! ### References -/

/-- `THING_CODE_PATTERN.fullmatch(s)` -/
def isThingCode (s : PyStr) : Bool :=
  (cp "W7TP_THING_REF:v1:PRODUCT:sha256:").isPrefixOf s &&
    Sha256.isHex64 (s.drop (cp "W7TP_THING_REF:v1:PRODUCT:sha256:").length)

/-- `v or ""` -/
def orEmpty (v : PyVal) : PyVal := if v.truthy then v else .str []

/-! ### Values of a menu item -/

/-- `MENU_VALUE_KEYS` -/
def menuValueKeys : List String := ["thing_code", "name", "list_price", "pos_category_ids", "option_group_id",
  "image_sha256", "available_in_pos", "active"]

/-- `v in (None, False)` -/
def isNoneOrFalse (v : PyVal) : Bool := pyEq v .none || pyEq v (.bool false)

/-- `isinstance(v, int) and not isinstance(v, bool) and v > 0` -/
def isPositiveId : PyVal → Bool
  | .int n => 0 < n
  | _ => false

/-- `isinstance(v, bool)` -/
def isBool : PyVal → Bool
  | .bool _ => true
  | _ => false

/-- A price that is refused: no number, a Boolean, or a number below zero. -/
def badPrice : PyVal → Bool
  | .int n => n < 0
  | .float x => (x.isFinite && x.value < 0) || (!x.isFinite && x.frac = 0 && x.neg)
  | _ => true

/-- `sorted(set(ids))` -/
def sortedIds (ids : List PyVal) : List PyVal :=
  let numbers := ids.filterMap fun v => match v with
    | .int n => some n
    | _ => none
  (numbers.dedup.mergeSort fun m n => decide (m ≤ n)).map .int

/-- The check of one key, if it is there; the value may be changed. -/
def checkKey (k : String) (check : PyVal → Except Fault PyVal) (items : Items) : Except Fault Items :=
  match getItem items (cp k) with
  | none => .ok items
  | some v => do
      let w ← check v
      pure (setKey (cp k) w items)

/-- A check that leaves the value as it is. -/
def refuseIf (bad : PyVal → Bool) (parts : List String) (v : PyVal) : Except Fault PyVal :=
  if bad v then governanceError parts else .ok v

/-- The name of a menu item. -/
def checkName (fieldName : String) (v : PyVal) : Except Fault PyVal :=
  let name := strip (lib.str (orEmpty v))
  if name = [] ∨ 180 < name.length then governanceError [fieldName, "_NAME_INVALID"] else .ok (.str name)

/-- The categories of a menu item. -/
def checkCategories (fieldName : String) (v : PyVal) : Except Fault PyVal :=
  match v with
  | .list ids =>
      if ids.all isPositiveId then .ok (.list (sortedIds ids))
      else governanceError [fieldName, "_POS_CATEGORY_IDS_INVALID"]
  | _ => governanceError [fieldName, "_POS_CATEGORY_IDS_INVALID"]

/-- `_menu_values`; the name of the field is given in capitals. -/
def menuValues (value : PyVal) (fieldName : String) : Except Fault PyVal :=
  match value with
  | .none => .ok (.dict [])
  | .dict items =>
      if ¬items.all (fun p => menuValueKeys.any fun k => p.1 = key k) then
        governanceError [fieldName, "_FIELD_NOT_ALLOWED"]
      else do
        let items := normalizeItems lib [] items
        let items ← checkKey "thing_code" (refuseIf (fun v => !isThingCode (lib.str (orEmpty v)))
          [fieldName, "_THING_CODE_INVALID"]) items
        let items ← checkKey "name" (checkName lib fieldName) items
        let items ← checkKey "list_price" (refuseIf badPrice [fieldName, "_PRICE_INVALID"]) items
        let items ← checkKey "pos_category_ids" (checkCategories fieldName) items
        let items ← checkKey "option_group_id" (refuseIf (fun v => !isNoneOrFalse v && !isPositiveId v)
          [fieldName, "_OPTION_GROUP_ID_INVALID"]) items
        let items ← checkKey "image_sha256" (refuseIf (fun v => !isNoneOrFalse v && !Sha256.isHex64 (lib.str v))
          [fieldName, "_IMAGE_SHA256_INVALID"]) items
        let items ← checkKey "available_in_pos" (refuseIf (fun v => !isBool v)
          [fieldName, "_AVAILABLE_IN_POS_INVALID"]) items
        let items ← checkKey "active" (refuseIf (fun v => !isBool v) [fieldName, "_ACTIVE_INVALID"]) items
        pure (.dict items)
  | _ => governanceError [fieldName, "_INVALID"]

end MenuGovernance
