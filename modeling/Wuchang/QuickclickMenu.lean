/-
**The menu of the web surface.**

A snapshot of a menu lists products and groups of options.  The data for the web are made of it: products of one
category are left out, the questions of a group are sorted and numbered, and every product, question and option
has a coordinate.  The coordinate of a product is its SKU or, if it has none, its number; questions and options
have their places in the group.

Main definitions:

* `QuickclickMenu.buildWebData` — the data for the web;
* `QuickclickMenu.activeProducts` — the products that are not left out;
* `QuickclickMenu.buildProduct` — a product of the data, from one of the snapshot.

Main results:

* `QuickclickMenu.products_buildWebData` — the products of the data are the active ones, one by one.
-/

import Wuchang.CoreEncoding

set_option relaxedAutoImplicit false
set_option autoImplicit false

namespace QuickclickMenu

open Py
open CoreEncoding (Normal Fault)

/-- What the builder takes from outside. -/
structure Library where
  /-- `unicodedata.normalize("NFC", s)` -/
  nfc : Normal
  /-- `str` of a value that is no text. -/
  text : PyVal → PyStr
  /-- `sorted` of questions by their priorities and names, where a name is no text. -/
  sortOther : List ((ℕ × PyVal) × PyVal) → Except Fault (List PyVal)
  /-- `x - n` for a float. -/
  difference : PyFloat → ℕ → PyVal

/-- `SOURCE_CATEGORY_TO_MAJOR` -/
def sourceCategoryToMajor : List (String × String) := [
  ("義式咖啡", "coffee"), ("單品手沖", "coffee"), ("聊國簡餐", "food"), ("茶", "tea-other"),
  ("無咖啡因", "tea-other"), ("點心", "food"), ("咖啡豆", "beans"), ("濾掛咖啡", "drip")]

/-- `EXCLUDED_SOURCE_CATEGORIES` -/
def excludedSourceCategories : List String := ["濾掛咖啡"]

/-- `source_product_ref` -/
def sourceProductRef (lib : Library) (menuId coordinate : PyVal) : Except Fault PyStr :=
  CoreEncoding.buildSourceCoordinate lib.nfc (lit "PRODUCT") menuId coordinate

/-- `source_question_ref` -/
def sourceQuestionRef (lib : Library) (menuId coordinate : PyVal) : Except Fault PyStr :=
  CoreEncoding.buildSourceCoordinate lib.nfc (lit "QUESTION") menuId coordinate

/-- `source_option_ref` -/
def sourceOptionRef (lib : Library) (menuId coordinate : PyVal) : Except Fault PyStr :=
  CoreEncoding.buildSourceCoordinate lib.nfc (lit "OPTION") menuId coordinate

/-- What `for item in v` goes through. -/
def elementsOf : PyVal → Except Fault (List PyVal)
  | .list xs => .ok xs
  | .dict items => .ok (items.map fun p => match p.1 with
      | .str s => .str s
      | .other => .other)
  | .str s => .ok (s.map fun c => .str [c])
  | _ => .error (.builtin .typeError)

/-- `str(v)` -/
def str (lib : Library) : PyVal → PyStr
  | .str s => s
  | v => lib.text v

/-! ### Groups of options -/

/-- `needle in v` -/
def occursIn (needle : String) : PyVal → Except Fault Bool
  | .str s => .ok (decide (cp needle <:+: s))
  | .list xs => .ok (xs.any fun x => pyEq x (lit needle))
  | .dict items => .ok (items.any fun p => p.1 = key needle)
  | _ => .error (.builtin .typeError)

/-- `question_priority`, by the name of a question. -/
def questionPriority (name : PyVal) : Except Fault ℕ :=
  if pyEq name (lit "尺寸") then .ok 10 else do
  let temperature ← occursIn "溫度" name
  if temperature then pure 20 else
  if pyEq name (lit "甜度") then pure 30 else do
  let flavour ← occursIn "口味" name
  if flavour then pure 40 else do
  let syrup ← occursIn "糖漿" name
  pure (if syrup then 40 else 50)

/-- A question with its sort key. -/
def keyed (question : PyVal) : Except Fault ((ℕ × PyVal) × PyVal) := do
  let name ← question.at "name"
  let priority ← questionPriority name
  pure ((priority, name), question)

/-- The sort keys whose names are texts. -/
def textKeys : List ((ℕ × PyVal) × PyVal) → Option (List ((ℕ × PyStr) × PyVal))
  | [] => some []
  | ((priority, .str name), question) :: rest =>
      (textKeys rest).map fun keys => ((priority, name), question) :: keys
  | _ => none

/-- The order of the sort keys. -/
def precedes (a b : (ℕ × PyStr) × PyVal) : Bool :=
  a.1.1 < b.1.1 || (a.1.1 = b.1.1 && decide (a.1.2 ≤ b.1.2))

/-- `sorted(questions, key=question_priority)` -/
def sortQuestions (lib : Library) (questions : List PyVal) : Except Fault (List PyVal) := do
  let keys ← questions.mapM keyed
  match textKeys keys with
  | some keys => pure ((keys.mergeSort precedes).map Prod.snd)
  | none => lib.sortOther keys

/-- An option of the web data. -/
structure WebOption where
  id : PyStr
  sourceOptionCode : PyVal
  name : PyVal
  displayName : PyVal
  priceDelta : PyVal

/-- A question of the web data. -/
structure WebQuestion where
  id : PyStr
  sourceQuestionCode : PyVal
  name : PyVal
  displayName : PyVal
  selectionMode : PyVal
  required : PyVal
  options : List WebOption

/-- A group of the web data. -/
structure WebGroup where
  id : PyVal
  name : PyVal
  questions : List WebQuestion

/-- `f"{group['group_id']}:Q{question_index}"` -/
def questionId (lib : Library) (groupId : PyVal) (i : ℕ) : PyStr := str lib groupId ++ cp ":Q" ++ intText i

/-- `f"{group['group_id']}:Q{question_index}:O{option_index}"` -/
def optionId (lib : Library) (groupId : PyVal) (i j : ℕ) : PyStr :=
  questionId lib groupId i ++ cp ":O" ++ intText j

/-- An option, at its place. -/
def buildOption (lib : Library) (group : PyVal) (i : ℕ) (p : PyVal × ℕ) : Except Fault WebOption := do
  let groupId ← group.at "group_id"
  let code ← p.1.at "option_code"
  let name ← p.1.at "name"
  let displayName ← p.1.at "display_name"
  let priceDelta ← p.1.at "price_delta"
  pure ⟨optionId lib groupId i p.2, code, name, displayName, priceDelta⟩

/-- A question, at its place. -/
def buildQuestion (lib : Library) (group : PyVal) (p : PyVal × ℕ) : Except Fault WebQuestion := do
  let options ← p.1.at "options"
  let options ← elementsOf options
  let options ← (options.zipIdx 1).mapM (buildOption lib group p.2)
  let groupId ← group.at "group_id"
  let code ← p.1.at "question_code"
  let name ← p.1.at "name"
  let displayName ← p.1.at "display_name"
  let selectionMode ← p.1.at "selection_mode"
  let required ← p.1.at "required"
  pure ⟨questionId lib groupId p.2, code, name, displayName, selectionMode, required, options⟩

/-- A group. -/
def buildGroup (lib : Library) (group : PyVal) : Except Fault WebGroup := do
  let questions ← group.at "questions"
  let questions ← elementsOf questions
  let questions ← sortQuestions lib questions
  let questions ← (questions.zipIdx 1).mapM (buildQuestion lib group)
  let id ← group.at "group_id"
  let name ← group.at "name"
  pure ⟨id, name, questions⟩

/-! ### Products -/

/-- A product of the web data. -/
structure WebProduct where
  id : PyStr
  sourceProductId : PyVal
  sourceProductCode : PyVal
  sourceRef : PyStr
  name : PyVal
  category : PyStr
  sourceCategory : PyVal
  price : PyVal
  optionGroupIds : PyVal

/-- `product["sku"] or f"P_{product['product_id']}"` -/
def coordinateOf (lib : Library) (product : PyVal) : Except Fault PyVal := do
  let sku ← product.at "sku"
  if sku.truthy then pure sku else do
  let productId ← product.at "product_id"
  pure (.str (cp "P_" ++ str lib productId))

/-- `SOURCE_CATEGORY_TO_MAJOR[category]` -/
def majorOf (category : PyVal) : Except Fault PyStr :=
  match sourceCategoryToMajor.find? fun p => pyEq category (lit p.1) with
  | some p => .ok (cp p.2)
  | none => .error (.builtin .keyError)

/-- `snapshot["menu"]["menu_id"]` -/
def menuIdOf (snapshot : PyVal) : Except Fault PyVal := do
  let menu ← snapshot.at "menu"
  menu.at "menu_id"

/-- A product; its reference is made of a text, which is its coordinate. -/
def buildProduct (lib : Library) (snapshot product : PyVal) : Except Fault WebProduct := do
  let coordinate ← coordinateOf lib product
  let productId ← product.at "product_id"
  let code ← product.at "product_code"
  let menuId ← menuIdOf snapshot
  let sourceRef ← sourceProductRef lib menuId coordinate
  let name ← product.at "name"
  let sourceCategory ← product.at "category"
  let category ← majorOf sourceCategory
  let price ← product.at "base_price"
  let groups ← product.at "option_group_ids"
  pure ⟨str lib coordinate, productId, code, sourceRef, name, category, sourceCategory, price, groups⟩

/-- `category in EXCLUDED_SOURCE_CATEGORIES` -/
def isExcluded (category : PyVal) : Bool := excludedSourceCategories.any fun c => pyEq category (lit c)

/-- The products whose category is not left out. -/
def activeProducts : List PyVal → Except Fault (List PyVal)
  | [] => .ok []
  | product :: products => do
      let category ← product.at "category"
      if isHashable category then do
        let rest ← activeProducts products
        pure (if isExcluded category then rest else product :: rest)
      else .error (.builtin .typeError)

/-- A category is known. -/
def isKnown (category : PyVal) : Bool :=
  (sourceCategoryToMajor.any fun p => pyEq category (lit p.1)) || isExcluded category

/-- The check of the categories. -/
def checkCategories (products : List PyVal) : Except Fault Unit := do
  let categories ← products.mapM fun product => product.at "category"
  if categories.all isHashable then
    if categories.all isKnown then pure () else .error (.builtin .valueError)
  else .error (.builtin .typeError)

/-! ### The data -/

/-- `v - n`, where the value is a number. -/
def minus (lib : Library) (v : PyVal) (n : ℕ) : Except Fault PyVal :=
  match v with
  | .int m => .ok (.int (m - n))
  | .bool b => .ok (.int ((if b then 1 else 0) - n))
  | .float x => .ok (lib.difference x n)
  | _ => .error (.builtin .typeError)

/-- Where the data come from, and the numbers of what is in them. -/
structure WebSource where
  id : PyVal
  name : PyVal
  sha256 : PyVal
  modifiedAt : PyVal
  authorityState : PyVal
  sourceProductCount : PyVal
  activeProductCount : ℕ
  excludedProductCount : PyVal
  optionGroupCount : PyVal
  rawOptionRowCount : PyVal
  normalizedOptionCount : PyVal
  sourceWarningCount : PyVal

/-- The references for the other surface. -/
structure WebRefs where
  candidateRefs : List PyStr
  representationRef : PyStr
  observationSetRef : PyStr
  evidenceRef : PyStr

/-- The data for the web, but for what is the same in all of them. -/
structure WebData where
  source : WebSource
  refs : WebRefs
  products : List WebProduct
  optionGroups : List WebGroup

/-- The entry `source`. -/
def buildSource (lib : Library) (snapshot : PyVal) (n : ℕ) : Except Fault WebSource := do
  let menu ← snapshot.at "menu"
  let id ← menu.at "menu_id"
  let name ← menu.at "name"
  let source ← snapshot.at "source"
  let sha256 ← source.at "sha256"
  let modifiedAt ← source.at "modified_at"
  let authorityState ← snapshot.at "authority_state"
  let counts ← snapshot.at "counts"
  let products ← counts.at "products"
  let excluded ← minus lib products n
  let optionGroups ← counts.at "option_groups"
  let rawOptionRows ← counts.at "raw_option_rows"
  let optionItems ← counts.at "option_items"
  let warnings ← counts.at "source_warnings"
  pure ⟨id, name, sha256, modifiedAt, authorityState, products, n, excluded, optionGroups, rawOptionRows,
    optionItems, warnings⟩

/-- The entry `adi`. -/
def buildRefs (lib : Library) (source : WebSource) (products : List WebProduct) : WebRefs where
  candidateRefs := products.map WebProduct.sourceRef
  representationRef := cp "quickclick-menu:" ++ str lib source.id ++ cp "@sha256:" ++ str lib source.sha256
  observationSetRef := cp "quickclick-active-products:" ++ intText products.length ++ cp "@sha256:" ++
    str lib source.sha256
  evidenceRef := cp "sha256:" ++ str lib source.sha256

/-- `build_web_data` -/
def buildWebData (lib : Library) (snapshot : PyVal) : Except Fault WebData := do
  let rows ← snapshot.at "products"
  let rows ← elementsOf rows
  checkCategories rows
  let groups ← snapshot.at "option_groups"
  let groups ← elementsOf groups
  let groups ← groups.mapM (buildGroup lib)
  let active ← activeProducts rows
  let products ← active.mapM (buildProduct lib snapshot)
  let source ← buildSource lib snapshot products.length
  pure ⟨source, buildRefs lib source products, products, groups⟩

/-- The products of a snapshot outside the categories that are left out. -/
def activeOf (snapshot : PyVal) : Except Fault (List PyVal) := do
  let rows ← snapshot.at "products"
  let rows ← elementsOf rows
  activeProducts rows

/-- The products of the data are the active ones, one by one. -/
theorem products_buildWebData {lib : Library} {snapshot : PyVal} {web : WebData}
    (h : buildWebData lib snapshot = .ok web) :
    ∃ active, activeOf snapshot = .ok active ∧
      List.Forall₂ (fun product webProduct => buildProduct lib snapshot product = .ok webProduct) active
        web.products := by
  simp only [buildWebData, bind_eq_ok_iff] at h
  obtain ⟨rows, hrows, xs, hxs, _, _, _, _, _, _, _, _, active, hactive, products, hproducts, source, hsource,
    h⟩ := h
  obtain rfl := pure_eq_ok_iff.1 h
  refine ⟨active, ?_, forall₂_of_mapM hproducts⟩
  rw [activeOf, hrows, ok_bind, hxs]
  exact hactive

end QuickclickMenu
