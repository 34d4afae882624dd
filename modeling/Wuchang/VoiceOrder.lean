/-
**Orders spoken at the counter.**

An order is spoken as a size, a temperature, a sweetness and an item.  One parser takes the parts from the
front, each the longest token that fits, and the order is valid if all four are there.  A second parser takes
the same parts wherever they are and joins what is left; when it finds all four in an order that is not valid,
the order is to be repeated.

The text of a transcript that is not a string, and the tables of Unicode, are parameters.

Main definitions:

* `VoiceOrder.parseStaffVoiceOrder` — both parsers and their report;
* `VoiceOrder.IsItem` — an item that has no letter of a token;
* `VoiceOrder.Speaks` — a transcript that has some parts, with white space anywhere.

Main results:

* `VoiceOrder.extractToken_parts`, `VoiceOrder.consumeToken_parts` — one token among parts;
* `VoiceOrder.inferred_of_perm` — the parts are found in every order;
* `VoiceOrder.of_valid` — a valid order is what was said;
* `VoiceOrder.voice_order_recovered` — the reports of spoken orders.
-/

import Wuchang.Vocabulary
import Wuchang.PyCase
import Wuchang.PyValue
import Mathlib.Data.List.Find

set_option relaxedAutoImplicit false
set_option autoImplicit false

namespace VoiceOrder

open Py

/-! ### Tokens -/

/-- Tokens with their values. -/
abbrev Tokens := Vocabulary ℕ PyStr

/-- `VOICE_SIZE_TOKENS` -/
def voiceSizeTokens : Tokens where
  entries := [(cp "大", cp "large"), (cp "大杯", cp "large"), (cp "中", cp "medium"), (cp "中杯", cp "medium"),
    (cp "小", cp "small"), (cp "小杯", cp "small")]
  distinct := by decide +kernel
  nonempty := by decide +kernel

/-- `VOICE_TEMPERATURE_TOKENS` -/
def voiceTemperatureTokens : Tokens where
  entries := [(cp "冰", cp "ice"), (cp "冰的", cp "ice"), (cp "熱", cp "hot"), (cp "熱的", cp "hot"),
    (cp "溫", cp "warm"), (cp "溫的", cp "warm")]
  distinct := by decide +kernel
  nonempty := by decide +kernel

/-- `VOICE_SWEETNESS_TOKENS` -/
def voiceSweetnessTokens : Tokens where
  entries := [(cp "無糖", cp "no_sugar"), (cp "微糖", cp "light_sugar"), (cp "少糖", cp "less_sugar"),
    (cp "半糖", cp "half_sugar"), (cp "正常甜", cp "regular_sugar"), (cp "全糖", cp "full_sugar")]
  distinct := by decide +kernel
  nonempty := by decide +kernel

/-- `VOICE_POS_GRAMMAR_ORDER` -/
def voicePosGrammarOrder : List String := ["size", "temperature", "sweetness", "item"]

/-- `text.find(word)` -/
def find (word text : PyStr) : Option ℕ := Vocabulary.find word text

/-- `_consume_token`: the token and its value, if there is one, and the rest of the text. -/
def consumeToken (table : CaseTable) (text : PyStr) (tokens : Tokens) : Option (PyStr × PyStr) × PyStr :=
  match (tokens.entries.mergeSort Vocabulary.longerFirst).find? fun token => lower table token.1 <+: text with
  | some (token, value) => (some (token, value), text.drop token.length)
  | none => (none, text)

/-- The loop of `_extract_token_anywhere`. -/
def betterToken (table : CaseTable) (text : PyStr) (best : Option (ℕ × PyStr × PyStr)) (entry : PyStr × PyStr) :
    Option (ℕ × PyStr × PyStr) :=
  match find (lower table entry.1) text with
  | none => best
  | some i => match best with
    | none => some (i, entry)
    | some (j, token, value) =>
        if i < j ∨ i = j ∧ token.length < entry.1.length then some (i, entry) else some (j, token, value)

/-- `_extract_token_anywhere` -/
def extractTokenAnywhere (table : CaseTable) (text : PyStr) (tokens : Tokens) : Option (PyStr × PyStr) × PyStr :=
  match tokens.entries.foldl (betterToken table text) none with
  | none => (none, text)
  | some (i, token, value) => (some (token, value), text.take i ++ text.drop (i + token.length))

/-! ### The report -/

/-- A slot with a token. -/
structure Slot where
  text : Option PyStr
  value : Option PyStr

/-- The slots of an order. -/
structure Slots where
  size : Slot
  temperature : Slot
  sweetness : Slot
  item : Option PyStr

/-- What the staff is asked to confirm. -/
structure Confirmation where
  required : Bool
  canonicalTranscript : PyStr
  zh : PyStr
  vi : PyStr
  en : PyStr

/-- What is reported of a transcript. -/
structure Report where
  grammar : String
  speakOrder : List String
  valid : Bool
  errors : List String
  repeatConfirmationRequired : Bool
  repeatConfirmation : Confirmation
  inferredSlots : Slots
  slots : Slots

/-- The slot of a token, if there is one. -/
def Slot.of (token : Option (PyStr × PyStr)) : Slot := ⟨token.map Prod.fst, token.map Prod.snd⟩

/-- `text or None` -/
def orNone (text : PyStr) : Option PyStr := if text = [] then none else some text

/-- `_repeat_confirmation_from_inferred` -/
def repeatConfirmationFromInferred (slots : Slots) : Confirmation :=
  let size := slots.size.text.getD []
  let temperature := slots.temperature.text.getD []
  let sweetness := slots.sweetness.text.getD []
  let item := slots.item.getD []
  let canonical := size ++ temperature ++ sweetness ++ item
  let complete := [size, temperature, sweetness, item].all fun text => text ≠ []
  { required := complete
    canonicalTranscript := if complete then canonical else []
    zh := if complete then cp "我聽到像是「" ++ canonical ++ cp "」，請店員或店長確認。"
      else cp "我聽到順序不完整，請照尺寸、溫度、甜度、品項重念。"
    vi := if complete then cp "XiaoJ nghe co the la \"" ++ canonical ++ cp "\". Vui long xac nhan truoc khi ghi POS."
      else cp "Thong tin chua du, vui long doc lai theo thu tu kich co, nhiet do, do ngot, mon."
    en := if complete then cp "I heard this as \"" ++ canonical ++ cp "\". Please confirm before POS."
      else cp "The phrase is incomplete. Please repeat size, temperature, sweetness, item." }

/-- `str(transcript or "")`, where the text of what is not a string is given. -/
def transcriptText (str : PyVal → PyStr) (transcript : PyVal) : PyStr :=
  if transcript.truthy then
    match transcript with
    | .str s => s
    | v => str v
  else []

/-- `compact_voice_text` -/
def compactVoiceText (table : CaseTable) (str : PyVal → PyStr) (transcript : PyVal) : PyStr :=
  lower table (splitWords (strip (transcriptText str transcript))).flatten

/-- The errors of the parser that takes the parts from the front. -/
def orderErrors (size temperature sweetness : Option (PyStr × PyStr)) (item : PyStr) : List String :=
  (if size.isNone then ["missing_size_first"] else []) ++
  (if size.isSome && temperature.isNone then ["missing_temperature_second"] else []) ++
  (if size.isSome && temperature.isSome && sweetness.isNone then ["missing_sweetness_third"] else []) ++
  (if size.isSome && temperature.isSome && sweetness.isSome && item = [] then ["missing_item_fourth"] else [])

/-- `parse_staff_voice_order` -/
def parseStaffVoiceOrder (table : CaseTable) (str : PyVal → PyStr) (transcript : PyVal) : Report :=
  let compact := compactVoiceText table str transcript
  let (size, rest) := consumeToken table compact voiceSizeTokens
  let (temperature, rest) := consumeToken table rest voiceTemperatureTokens
  let (sweetness, rest) := consumeToken table rest voiceSweetnessTokens
  let item := strip rest
  let errors := orderErrors size temperature sweetness item
  let valid := errors = []
  let (inferredSize, inferredRest) := extractTokenAnywhere table compact voiceSizeTokens
  let (inferredTemperature, inferredRest) := extractTokenAnywhere table inferredRest voiceTemperatureTokens
  let (inferredSweetness, inferredRest) := extractTokenAnywhere table inferredRest voiceSweetnessTokens
  let inferredItem := strip inferredRest
  let inferredSlots : Slots := ⟨.of inferredSize, .of inferredTemperature, .of inferredSweetness, orNone inferredItem⟩
  let confirmation := repeatConfirmationFromInferred inferredSlots
  { grammar := "size_temperature_sweetness_item"
    speakOrder := voicePosGrammarOrder
    valid := valid
    errors := if !valid && confirmation.required then errors ++ ["out_of_order_requires_repeat_confirmation"]
      else errors
    repeatConfirmationRequired := !valid && confirmation.required
    repeatConfirmation := confirmation
    inferredSlots := inferredSlots
    slots := ⟨.of size, .of temperature, .of sweetness, orNone item⟩ }

/-! ### One token among parts -/

section Parts

variable {table : CaseTable} {tokens : Tokens} {entry : PyStr × PyStr} {text before behind : PyStr}

/-- The tokens are Chinese. -/
def Ideographic (tokens : Tokens) : Prop := ∀ entry ∈ tokens.entries, ∀ c ∈ entry.1, 0x4E00 ≤ c ∧ c ≤ 0x9FFF

instance (tokens : Tokens) : Decidable (Ideographic tokens) :=
  inferInstanceAs (Decidable (∀ entry ∈ tokens.entries, ∀ c ∈ entry.1, 0x4E00 ≤ c ∧ c ≤ 0x9FFF))

theorem Ideographic.lower (h : Ideographic tokens) (hentry : entry ∈ tokens.entries) :
    lower table entry.1 = entry.1 := lower_ideographs (h entry hentry)

/-- The token in front is the longest word in front. -/
theorem consumeToken_eq (h : Ideographic tokens) (text : PyStr) : consumeToken table text tokens =
    match tokens.longest text with
    | some entry => (some entry, text.drop entry.1.length)
    | none => (none, text) := by
  have hfind : ((tokens.entries.mergeSort Vocabulary.longerFirst).find? fun token =>
      Py.lower table token.1 <+: text) = tokens.longest text := by
    refine List.find?_congr fun token htoken => ?_
    rw [h.lower (List.mem_mergeSort.1 htoken)]
  rw [consumeToken, hfind]
  cases tokens.longest text with
  | none => rfl
  | some token => rfl

/-- The token that is taken is the word that occurs first. -/
theorem extractTokenAnywhere_eq (h : Ideographic tokens) (text : PyStr) : extractTokenAnywhere table text tokens =
    match tokens.earliest text with
    | some (i, entry) => (some entry, text.take i ++ text.drop (i + entry.1.length))
    | none => (none, text) := by
  have hfold : tokens.entries.foldl (betterToken table text) none = tokens.earliest text := by
    refine List.foldl_ext _ _ _ fun best token htoken => ?_
    rw [betterToken, h.lower htoken, Vocabulary.earlierOf, find]
    cases Vocabulary.find token.1 text with
    | none => rfl
    | some i =>
        cases best with
        | none => rfl
        | some found => rfl
  rw [extractTokenAnywhere, hfold]
  cases tokens.earliest text with
  | none => rfl
  | some found => rfl

theorem consumeToken_append (h : Ideographic tokens) (hentry : entry ∈ tokens.entries)
    (hbehind : tokens.Foreign behind) : consumeToken table (entry.1 ++ behind) tokens = (some entry, behind) := by
  rw [consumeToken_eq h, Vocabulary.longest_append hentry hbehind]
  dsimp only
  rw [List.drop_left]

theorem extractTokenAnywhere_append (h : Ideographic tokens) (hentry : entry ∈ tokens.entries)
    (hbefore : tokens.Foreign before) (hbehind : tokens.Foreign behind) :
    extractTokenAnywhere table (before ++ (entry.1 ++ behind)) tokens = (some entry, before ++ behind) := by
  rw [extractTokenAnywhere_eq h, Vocabulary.earliest_append hentry hbefore hbehind]
  dsimp only
  rw [List.take_left, ← List.append_assoc, ← List.length_append, List.drop_left]

/-- What is taken from the front was in front. -/
theorem of_consumeToken (h : Ideographic tokens) {rest : PyStr}
    (hconsume : consumeToken table text tokens = (some entry, rest)) :
    entry ∈ tokens.entries ∧ text = entry.1 ++ rest := by
  rw [consumeToken_eq h] at hconsume
  cases hlongest : tokens.longest text with
  | none =>
      rw [hlongest] at hconsume
      cases hconsume
  | some found =>
      rw [hlongest] at hconsume
      obtain ⟨hfound, rfl⟩ := Prod.mk.inj hconsume
      obtain rfl := Option.some.inj hfound
      obtain ⟨hmem, hstart⟩ := Vocabulary.of_longest hlongest
      exact ⟨hmem, List.prefix_iff_eq_append.1 hstart |>.symm⟩

theorem foreign_flatten {parts : List PyStr} (h : ∀ part ∈ parts, tokens.Foreign part) :
    tokens.Foreign parts.flatten := by
  intro c hc
  obtain ⟨part, hpart, hc⟩ := List.mem_flatten.1 hc
  exact h part hpart c hc

/-- **A token anywhere.**  Taking the token leaves the other parts in their order. -/
theorem extractToken_parts (h : Ideographic tokens) (hentry : entry ∈ tokens.entries) {parts others : List PyStr}
    (hparts : parts.Perm (entry.1 :: others)) (hothers : ∀ other ∈ others, tokens.Foreign other) :
    ∃ rest : List PyStr, rest.Perm others ∧ extractTokenAnywhere table parts.flatten tokens = (some entry, rest.flatten) := by
  obtain ⟨front, back, rfl⟩ := List.append_of_mem (hparts.mem_iff.2 List.mem_cons_self)
  have hperm : (front ++ back).Perm others := (List.perm_middle.symm.trans hparts).cons_inv
  have hforeign : ∀ part ∈ front ++ back, tokens.Foreign part := fun part hpart =>
    hothers part (hperm.mem_iff.1 hpart)
  refine ⟨front ++ back, hperm, ?_⟩
  rw [List.flatten_append, List.flatten_append, List.flatten_cons]
  exact extractTokenAnywhere_append h hentry
    (foreign_flatten fun part hpart => hforeign part (List.mem_append_left _ hpart))
    (foreign_flatten fun part hpart => hforeign part (List.mem_append_right _ hpart))

/-- **A token in front.**  The token is taken if it is the first part, and none is taken if it is not. -/
theorem consumeToken_parts (h : Ideographic tokens) (hentry : entry ∈ tokens.entries) {parts others : List PyStr}
    (hparts : parts.Perm (entry.1 :: others))
    (hothers : ∀ other ∈ others, other ≠ [] ∧ tokens.Foreign other) :
    (∃ rest : List PyStr, rest.Perm others ∧ parts = entry.1 :: rest ∧
      consumeToken table parts.flatten tokens = (some entry, rest.flatten)) ∨
    (∀ rest, parts ≠ entry.1 :: rest) ∧ (consumeToken table parts.flatten tokens).1 = none := by
  cases parts with
  | nil => exact absurd hparts.length_eq (by simp)
  | cons part parts =>
      by_cases hpart : part = entry.1
      · subst hpart
        have hperm := hparts.cons_inv
        refine .inl ⟨parts, hperm, rfl, ?_⟩
        rw [List.flatten_cons]
        exact consumeToken_append h hentry
          (foreign_flatten fun other hother => (hothers other (hperm.mem_iff.1 hother)).2)
      · have hmem : part ∈ others :=
          (List.mem_cons.1 (hparts.mem_iff.1 List.mem_cons_self)).resolve_left hpart
        obtain ⟨c, letters, rfl⟩ := List.exists_cons_of_ne_nil (hothers part hmem).1
        have hc : tokens.Foreign [c] := fun d hd =>
          (hothers _ hmem).2 d (List.mem_cons.2 (.inl (List.mem_singleton.1 hd)))
        refine .inr ⟨fun rest heq => hpart (List.cons.inj heq).1, ?_⟩
        rw [List.flatten_cons, List.cons_append, consumeToken_eq h, Vocabulary.longest_foreign hc]

end Parts

/-! ### Spoken orders -/

section Orders

variable {table : CaseTable} {str : PyVal → PyStr} {size temperature sweetness : PyStr × PyStr} {item : PyStr}
  {parts : List PyStr} {transcript : PyVal}

/-- No letter of a token is in a text. -/
def FreeOfTokens (text : PyStr) : Prop :=
  voiceSizeTokens.Foreign text ∧ voiceTemperatureTokens.Foreign text ∧ voiceSweetnessTokens.Foreign text

/-- An item: a text in lower case without white space, in which no character of a token occurs. -/
structure IsItem (table : CaseTable) (item : PyStr) : Prop where
  nonempty : item ≠ []
  unspaced : ∀ c ∈ item, isSpace c = false
  lower : Py.lower table item = item
  free : FreeOfTokens item

/-- A transcript has some parts, with white space anywhere. -/
def Speaks (str : PyVal → PyStr) (transcript : PyVal) (parts : List PyStr) : Prop :=
  unspaced (transcriptText str transcript) = parts.flatten

/-- The slots of an order of these parts. -/
def slotsOf (size temperature sweetness : PyStr × PyStr) (item : PyStr) : Slots :=
  ⟨.of (some size), .of (some temperature), .of (some sweetness), some item⟩

theorem ideographic_tokens : Ideographic voiceSizeTokens ∧ Ideographic voiceTemperatureTokens ∧
    Ideographic voiceSweetnessTokens := by decide +kernel

/-- Tokens of different kinds have no letter in common. -/
theorem tokens_apart :
    (∀ entry ∈ voiceTemperatureTokens.entries, voiceSizeTokens.Foreign entry.1) ∧
    (∀ entry ∈ voiceSweetnessTokens.entries, voiceSizeTokens.Foreign entry.1) ∧
    ∀ entry ∈ voiceSweetnessTokens.entries, voiceTemperatureTokens.Foreign entry.1 := by
  unfold Vocabulary.Foreign
  decide +kernel

/-- White space is left out before anything is parsed. -/
theorem compactVoiceText_eq : compactVoiceText table str transcript =
    lower table (unspaced (transcriptText str transcript)) := by
  rw [compactVoiceText, flatten_splitWords, unspaced_strip]

/-- The compact text of spoken parts. -/
theorem compact_of_speaks (hsize : size ∈ voiceSizeTokens.entries)
    (htemperature : temperature ∈ voiceTemperatureTokens.entries)
    (hsweetness : sweetness ∈ voiceSweetnessTokens.entries) (hitem : IsItem table item)
    (hparts : parts.Perm [size.1, temperature.1, sweetness.1, item]) (h : Speaks str transcript parts) :
    compactVoiceText table str transcript = parts.flatten := by
  rw [compactVoiceText_eq, h, lower_flatten]
  intro part hpart
  have hpart := hparts.mem_iff.1 hpart
  simp only [List.mem_cons, List.not_mem_nil, or_false] at hpart
  rcases hpart with rfl | rfl | rfl | rfl
  · exact ideographic_tokens.1.lower hsize
  · exact ideographic_tokens.2.1.lower htemperature
  · exact ideographic_tokens.2.2.lower hsweetness
  · exact hitem.lower

/-- **The parts are found in every order.** -/
theorem inferred_of_perm (hsize : size ∈ voiceSizeTokens.entries)
    (htemperature : temperature ∈ voiceTemperatureTokens.entries)
    (hsweetness : sweetness ∈ voiceSweetnessTokens.entries) (hitem : IsItem table item)
    (hparts : parts.Perm [size.1, temperature.1, sweetness.1, item]) :
    ∃ rest rest', extractTokenAnywhere table parts.flatten voiceSizeTokens = (some size, rest) ∧
      extractTokenAnywhere table rest voiceTemperatureTokens = (some temperature, rest') ∧
      extractTokenAnywhere table rest' voiceSweetnessTokens = (some sweetness, item) := by
  obtain ⟨hideo, hideo', hideo''⟩ := ideographic_tokens
  obtain ⟨hapart, hapart', hapart''⟩ := tokens_apart
  obtain ⟨rest, hrest, hextract⟩ := @extractToken_parts table _ _ hideo hsize _ _ hparts
    (by simp [hapart _ htemperature, hapart' _ hsweetness, hitem.free.1])
  obtain ⟨rest', hrest', hextract'⟩ := @extractToken_parts table _ _ hideo' htemperature _ _ hrest
    (by simp [hapart'' _ hsweetness, hitem.free.2.1])
  obtain ⟨rest'', hrest'', hextract''⟩ := @extractToken_parts table _ _ hideo'' hsweetness _ _ hrest'
    (by simp [hitem.free.2.2])
  obtain rfl := List.perm_singleton.1 hrest''
  rw [List.flatten_singleton] at hextract''
  exact ⟨_, _, hextract, hextract', hextract''⟩

/-- The parser from the front takes every part of an order in the right order, and no other order has all four
parts there. -/
theorem consumed_of_perm (hsize : size ∈ voiceSizeTokens.entries)
    (htemperature : temperature ∈ voiceTemperatureTokens.entries)
    (hsweetness : sweetness ∈ voiceSweetnessTokens.entries) (hitem : IsItem table item)
    (hparts : parts.Perm [size.1, temperature.1, sweetness.1, item])
    {found found' found'' : Option (PyStr × PyStr)} {rest rest' rest'' : PyStr}
    (hfound : consumeToken table parts.flatten voiceSizeTokens = (found, rest))
    (hfound' : consumeToken table rest voiceTemperatureTokens = (found', rest'))
    (hfound'' : consumeToken table rest' voiceSweetnessTokens = (found'', rest'')) :
    parts = [size.1, temperature.1, sweetness.1, item] ∧ found = some size ∧ found' = some temperature ∧
        found'' = some sweetness ∧ rest'' = item ∨
      parts ≠ [size.1, temperature.1, sweetness.1, item] ∧
        (found.isSome && found'.isSome && found''.isSome) = false := by
  obtain ⟨hideo, hideo', hideo''⟩ := ideographic_tokens
  obtain ⟨hapart, hapart', hapart''⟩ := tokens_apart
  have hne := voiceTemperatureTokens.nonempty _ htemperature
  have hne' := voiceSweetnessTokens.nonempty _ hsweetness
  rcases @consumeToken_parts table _ _ hideo hsize _ _ hparts (by
    simp [hapart _ htemperature, hapart' _ hsweetness, hitem.free.1, hne, hne', hitem.nonempty]) with
    ⟨behind, hbehind, rfl, hconsume⟩ | ⟨hfirst, hconsume⟩
  · obtain ⟨rfl, rfl⟩ := Prod.mk.inj (hfound.symm.trans hconsume)
    rcases @consumeToken_parts table _ _ hideo' htemperature _ _ hbehind (by
      simp [hapart'' _ hsweetness, hitem.free.2.1, hne', hitem.nonempty]) with
      ⟨behind', hbehind', rfl, hconsume'⟩ | ⟨hsecond, hconsume'⟩
    · obtain ⟨rfl, rfl⟩ := Prod.mk.inj (hfound'.symm.trans hconsume')
      rcases @consumeToken_parts table _ _ hideo'' hsweetness _ _ hbehind' (by
        simp [hitem.free.2.2, hitem.nonempty]) with ⟨last, hlast, rfl, hconsume''⟩ | ⟨hthird, hconsume''⟩
      · obtain ⟨rfl, rfl⟩ := Prod.mk.inj (hfound''.symm.trans hconsume'')
        obtain rfl := List.perm_singleton.1 hlast
        exact .inl ⟨rfl, rfl, rfl, rfl, List.flatten_singleton⟩
      · rw [hfound''] at hconsume''
        obtain rfl : found'' = none := hconsume''
        exact .inr ⟨fun heq => hthird _ (List.cons.inj (List.cons.inj heq).2).2, rfl⟩
    · rw [hfound'] at hconsume'
      obtain rfl : found' = none := hconsume'
      exact .inr ⟨fun heq => hsecond _ (List.cons.inj heq).2, rfl⟩
  · rw [hfound] at hconsume
    obtain rfl : found = none := hconsume
    exact .inr ⟨hfirst _, rfl⟩

/-- When the parser from the front has no error. -/
theorem orderErrors_eq_nil_iff {found found' found'' : Option (PyStr × PyStr)} :
    orderErrors found found' found'' item = [] ↔
      (found.isSome && found'.isSome && found''.isSome) = true ∧ item ≠ [] := by
  unfold orderErrors
  cases found <;> cases found' <;> cases found'' <;> simp

/-- What is reported of the two parsers. -/
theorem parse_eq {found found' found'' inferred inferred' inferred'' : Option (PyStr × PyStr)}
    {rest rest' rest'' left left' left'' : PyStr}
    (hfound : consumeToken table (compactVoiceText table str transcript) voiceSizeTokens = (found, rest))
    (hfound' : consumeToken table rest voiceTemperatureTokens = (found', rest'))
    (hfound'' : consumeToken table rest' voiceSweetnessTokens = (found'', rest''))
    (hinferred : extractTokenAnywhere table (compactVoiceText table str transcript) voiceSizeTokens =
      (inferred, left))
    (hinferred' : extractTokenAnywhere table left voiceTemperatureTokens = (inferred', left'))
    (hinferred'' : extractTokenAnywhere table left' voiceSweetnessTokens = (inferred'', left'')) :
    ((parseStaffVoiceOrder table str transcript).valid = true ↔
        (found.isSome && found'.isSome && found''.isSome) = true ∧ strip rest'' ≠ []) ∧
      (parseStaffVoiceOrder table str transcript).slots =
        ⟨.of found, .of found', .of found'', orNone (strip rest'')⟩ ∧
      (parseStaffVoiceOrder table str transcript).inferredSlots =
        ⟨.of inferred, .of inferred', .of inferred'', orNone (strip left'')⟩ ∧
      (parseStaffVoiceOrder table str transcript).repeatConfirmationRequired =
        (!(parseStaffVoiceOrder table str transcript).valid && (repeatConfirmationFromInferred
          ⟨.of inferred, .of inferred', .of inferred'', orNone (strip left'')⟩).required) := by
  rw [← orderErrors_eq_nil_iff]
  simp only [parseStaffVoiceOrder, hfound, hfound', hfound'', hinferred, hinferred', hinferred'',
    decide_eq_true_eq, and_self]

/-- **A valid order is what was said.** -/
theorem of_valid (h : (parseStaffVoiceOrder table str transcript).valid = true) :
    ∃ size temperature sweetness item,
      (parseStaffVoiceOrder table str transcript).slots.size.text = some size ∧
      (parseStaffVoiceOrder table str transcript).slots.temperature.text = some temperature ∧
      (parseStaffVoiceOrder table str transcript).slots.sweetness.text = some sweetness ∧
      (parseStaffVoiceOrder table str transcript).slots.item = some item ∧
      lower table (unspaced (transcriptText str transcript)) = size ++ temperature ++ sweetness ++ item := by
  obtain ⟨hideo, hideo', hideo''⟩ := ideographic_tokens
  rcases hfound : consumeToken table (compactVoiceText table str transcript) voiceSizeTokens with ⟨found, rest⟩
  rcases hfound' : consumeToken table rest voiceTemperatureTokens with ⟨found', rest'⟩
  rcases hfound'' : consumeToken table rest' voiceSweetnessTokens with ⟨found'', rest''⟩
  obtain ⟨hvalid, hslots, -⟩ := parse_eq hfound hfound' hfound'' rfl rfl rfl
  obtain ⟨hsome, hitem⟩ := hvalid.1 h
  simp only [Bool.and_eq_true, Option.isSome_iff_exists] at hsome
  obtain ⟨⟨⟨size, rfl⟩, ⟨temperature, rfl⟩⟩, ⟨sweetness, rfl⟩⟩ := hsome
  have hcompact : compactVoiceText table str transcript =
      size.1 ++ (temperature.1 ++ (sweetness.1 ++ rest'')) := by
    rw [(of_consumeToken hideo hfound).2, (of_consumeToken hideo' hfound').2, (of_consumeToken hideo'' hfound'').2]
  rw [compactVoiceText_eq] at hcompact
  -- the rest has no white space at its ends, as the transcript has none left
  have hstrip : strip rest'' = rest'' := by
    have hspace := @isSpace_lower table _ (isSpace_unspaced (transcriptText str transcript))
    rw [hcompact] at hspace
    refine strip_eq_self fun c hc => hspace c ?_
    exact List.mem_append_right _ (List.mem_append_right _ (List.mem_append_right _ hc))
  rw [hstrip] at hslots hitem
  refine ⟨size.1, temperature.1, sweetness.1, rest'', ?_⟩
  rw [hslots, hcompact]
  exact ⟨rfl, rfl, rfl, if_neg hitem, by simp only [List.append_assoc]⟩

/-- An order of which all parts are found is to be repeated. -/
theorem required_slotsOf (hsize : size ∈ voiceSizeTokens.entries)
    (htemperature : temperature ∈ voiceTemperatureTokens.entries)
    (hsweetness : sweetness ∈ voiceSweetnessTokens.entries) (hitem : item ≠ []) :
    (repeatConfirmationFromInferred (slotsOf size temperature sweetness item)).required = true := by
  have hne := voiceSizeTokens.nonempty _ hsize
  have hne' := voiceTemperatureTokens.nonempty _ htemperature
  have hne'' := voiceSweetnessTokens.nonempty _ hsweetness
  simp [repeatConfirmationFromInferred, slotsOf, Slot.of, hne, hne', hne'', hitem]

/-- **The reports of spoken orders.**  A size, a temperature, a sweetness and an item are found in whatever
order they are spoken; the order is valid, with the same slots, if and only if it is this one, and is to be
repeated in every other.  What is reported of a valid order is what was said. -/
theorem voice_order_recovered (table : CaseTable) (str : PyVal → PyStr) :
    (∀ size ∈ voiceSizeTokens.entries, ∀ temperature ∈ voiceTemperatureTokens.entries,
      ∀ sweetness ∈ voiceSweetnessTokens.entries, ∀ item, IsItem table item →
      ∀ parts : List PyStr, parts.Perm [size.1, temperature.1, sweetness.1, item] →
      ∀ transcript, Speaks str transcript parts →
        (parseStaffVoiceOrder table str transcript).inferredSlots = slotsOf size temperature sweetness item ∧
        ((parseStaffVoiceOrder table str transcript).valid = true ↔
          parts = [size.1, temperature.1, sweetness.1, item]) ∧
        ((parseStaffVoiceOrder table str transcript).valid = true →
          (parseStaffVoiceOrder table str transcript).slots = slotsOf size temperature sweetness item) ∧
        (parts ≠ [size.1, temperature.1, sweetness.1, item] →
          (parseStaffVoiceOrder table str transcript).repeatConfirmationRequired = true)) ∧
    ∀ transcript, (parseStaffVoiceOrder table str transcript).valid = true →
      ∃ size temperature sweetness item,
        (parseStaffVoiceOrder table str transcript).slots.size.text = some size ∧
        (parseStaffVoiceOrder table str transcript).slots.temperature.text = some temperature ∧
        (parseStaffVoiceOrder table str transcript).slots.sweetness.text = some sweetness ∧
        (parseStaffVoiceOrder table str transcript).slots.item = some item ∧
        lower table (unspaced (transcriptText str transcript)) = size ++ temperature ++ sweetness ++ item := by
  refine ⟨?_, fun transcript => of_valid⟩
  intro size hsize temperature htemperature sweetness hsweetness item hitem parts hparts transcript hspeaks
  have hcompact := compact_of_speaks hsize htemperature hsweetness hitem hparts hspeaks
  obtain ⟨left, left', hinferred, hinferred', hinferred''⟩ :=
    @inferred_of_perm table _ _ _ _ _ hsize htemperature hsweetness hitem hparts
  rcases hfound : consumeToken table parts.flatten voiceSizeTokens with ⟨found, rest⟩
  rcases hfound' : consumeToken table rest voiceTemperatureTokens with ⟨found', rest'⟩
  rcases hfound'' : consumeToken table rest' voiceSweetnessTokens with ⟨found'', rest''⟩
  have hconsumed := consumed_of_perm hsize htemperature hsweetness hitem hparts hfound hfound' hfound''
  rw [← hcompact] at hfound hinferred
  obtain ⟨hvalid, hslots, hinferredSlots, hrepeat⟩ :=
    parse_eq hfound hfound' hfound'' hinferred hinferred' hinferred''
  have hitemText : orNone (strip item) = some item := by
    rw [strip_eq_self hitem.unspaced]
    exact if_neg hitem.nonempty
  have hrequired := @required_slotsOf size temperature sweetness item hsize htemperature hsweetness hitem.nonempty
  rw [hitemText] at hinferredSlots hrepeat
  refine ⟨hinferredSlots, ?_⟩
  rcases hconsumed with ⟨horder, rfl, rfl, rfl, rfl⟩ | ⟨horder, hsome⟩
  · rw [hitemText] at hslots
    rw [strip_eq_self hitem.unspaced] at hvalid
    exact ⟨iff_of_true (hvalid.2 ⟨rfl, hitem.nonempty⟩) horder, fun _ => hslots, fun h => absurd horder h⟩
  · have hinvalid : ¬(parseStaffVoiceOrder table str transcript).valid = true := by
      rw [hvalid, hsome]
      simp
    refine ⟨iff_of_false hinvalid horder, fun h => absurd h hinvalid, fun _ => ?_⟩
    rw [hrepeat, Bool.eq_false_iff.2 hinvalid]
    exact hrequired

end Orders

/-- A table in which ASCII letters have a case. -/
def asciiTable : CaseTable where
  lowerChar c := [if 65 ≤ c ∧ c ≤ 90 then c + 32 else c]
  cased c := 65 ≤ c && c ≤ 90 || 97 ≤ c && c ≤ 122
  ignorable c := c = 39 || c = 46
  nonempty c := List.cons_ne_nil _ _
  ideograph c h h' := by rw [if_neg (by omega)]
  space c h d hd := by
    obtain rfl := List.mem_singleton.1 hd
    split_ifs with hc
    · simp only [isSpace]
      simp
      omega
    · exact h

theorem isItem_latte : IsItem asciiTable (cp "拿鐵") where
  nonempty := by decide +kernel
  unspaced := by decide +kernel
  lower := by decide +kernel
  free := by
    simp only [FreeOfTokens, Vocabulary.Foreign]
    decide +kernel

/-- A latte that is asked for first. -/
theorem voice_order_recovered_latte :
    (parseStaffVoiceOrder asciiTable (fun _ => []) (lit " 拿鐵 大冰的 少糖")).inferredSlots =
        slotsOf (cp "大", cp "large") (cp "冰的", cp "ice") (cp "少糖", cp "less_sugar") (cp "拿鐵") ∧
      (parseStaffVoiceOrder asciiTable (fun _ => []) (lit " 拿鐵 大冰的 少糖")).repeatConfirmationRequired = true := by
  have h := (voice_order_recovered asciiTable fun _ => []).1 (cp "大", cp "large") (by decide +kernel)
    (cp "冰的", cp "ice") (by decide +kernel) (cp "少糖", cp "less_sugar") (by decide +kernel) (cp "拿鐵") isItem_latte
    [cp "拿鐵", cp "大", cp "冰的", cp "少糖"] (by decide +kernel) (lit " 拿鐵 大冰的 少糖") (by
      unfold Speaks
      decide +kernel)
  exact ⟨h.1, h.2.2.2 (by decide +kernel)⟩

end VoiceOrder
