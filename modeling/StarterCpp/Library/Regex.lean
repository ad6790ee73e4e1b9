import Mathlib.Data.List.Basic
import Mathlib.Logic.Function.Basic

/-!
# Regular expressions with backtracking

A pattern is matched at the start of a text.  What comes after the pattern is a
continuation, and of the ways to match the pattern the first one counts after which
the continuation succeeds: a greedy repetition tries to go on first, and a lazy one
tries to stop first.  Groups are captured on the way.
-/

namespace StarterCpp

/-- A pattern over some symbols. -/
inductive Regex (Symbol : Type*)
  | empty
  | symbol (accepts : Symbol → Bool)
  | append (first second : Regex Symbol)
  | optional (body : Regex Symbol)
  | star (body : Regex Symbol)
  | lazyStar (body : Regex Symbol)
  | group (index : ℕ) (body : Regex Symbol)

namespace Regex

variable {Symbol : Type*}

/-- What the groups of a pattern have captured. -/
abbrev Captures (Symbol : Type*) := ℕ → List Symbol

/-- What comes after a pattern: it is given the rest of the text. -/
abbrev Continuation (Symbol Result : Type*) :=
  List Symbol → Captures Symbol → Option Result

/-- A way to match: the text, the captures so far and what comes after. -/
abbrev Matcher (Symbol Result : Type*) :=
  List Symbol → Captures Symbol → Continuation Symbol Result → Option Result

section Run

variable {Result : Type*}

/-- Repeat a matcher as long as it consumes something: go on first, or stop first.
The bound is above the length of the text. -/
def repeated
    (goOn : Bool)
    (once : Matcher Symbol Result) : ℕ → Matcher Symbol Result
  | 0, _, _, _ => none
  | bound + 1, text, captures, next =>
      let further := once text captures fun rest found =>
        if rest.length < text.length then repeated goOn once bound rest found next
        else none
      if goOn then further.or (next text captures)
      else (next text captures).or further

/-- Match a pattern at the start of a text. -/
def run : Regex Symbol → Matcher Symbol Result
  | .empty, text, captures, next => next text captures
  | .symbol _, [], _, _ => none
  | .symbol accepts, head :: text, captures, next =>
      if accepts head then next text captures else none
  | .append first second, text, captures, next =>
      first.run text captures fun rest found => second.run rest found next
  | .optional body, text, captures, next =>
      (body.run text captures next).or (next text captures)
  | .star body, text, captures, next =>
      repeated true body.run (text.length + 1) text captures next
  | .lazyStar body, text, captures, next =>
      repeated false body.run (text.length + 1) text captures next
  | .group index body, text, captures, next =>
      body.run text captures fun rest found =>
        next rest
          (Function.update found index (text.take (text.length - rest.length)))

end Run

/-! ## Patterns -/

def plus (body : Regex Symbol) : Regex Symbol :=
  .append body (.star body)

def lazyPlus (body : Regex Symbol) : Regex Symbol :=
  .append body (.lazyStar body)

/-- Patterns one after the other. -/
def concat (patterns : List (Regex Symbol)) : Regex Symbol :=
  patterns.foldr .append .empty

/-- A text that is matched as it is. -/
def literal [DecidableEq Symbol] (word : List Symbol) : Regex Symbol :=
  concat (word.map fun letter => .symbol fun head => head = letter)

/-! ## Matches -/

/-- The captures of the match at the start of a text, and the text after it. -/
def matchAt
    (pattern : Regex Symbol)
    (text : List Symbol) : Option (Captures Symbol × List Symbol) :=
  pattern.run text (fun _ => []) fun rest captures => some (captures, rest)

/-- The leftmost match in a text. -/
def search (pattern : Regex Symbol) :
    List Symbol → Option (Captures Symbol × List Symbol)
  | [] => pattern.matchAt []
  | head :: text => (pattern.matchAt (head :: text)).or (search pattern text)

/-- The captures of the matches in a text, from left to right, after some symbols
of the last match are skipped.  The pattern matches no empty text. -/
def findAll (pattern : Regex Symbol) : ℕ → List Symbol → List (Captures Symbol)
  | _, [] => []
  | skipped + 1, _ :: text => findAll pattern skipped text
  | 0, head :: text =>
      match pattern.matchAt (head :: text) with
      | some (captures, after) =>
          captures :: findAll pattern (text.length - after.length) text
      | none => findAll pattern 0 text

/-- Replace the matches in a text, after some symbols of the last match are
skipped.  The pattern matches no empty text. -/
def replaceAll
    (pattern : Regex Symbol)
    (replacement : List Symbol) : ℕ → List Symbol → List Symbol
  | _, [] => []
  | skipped + 1, _ :: text => replaceAll pattern replacement skipped text
  | 0, head :: text =>
      match pattern.matchAt (head :: text) with
      | some (_, after) =>
          replacement ++
            replaceAll pattern replacement (text.length - after.length) text
      | none => head :: replaceAll pattern replacement 0 text

/-! ## Languages -/

/-- The texts that a pattern can consume. -/
inductive Consumes : Regex Symbol → List Symbol → Prop
  | empty : Consumes .empty []
  | symbol {accepts : Symbol → Bool} {head : Symbol}
      (accepted : accepts head = true) : Consumes (.symbol accepts) [head]
  | append {first second : Regex Symbol} {before after : List Symbol}
      (consumesFirst : Consumes first before)
      (consumesSecond : Consumes second after) :
      Consumes (.append first second) (before ++ after)
  | absent {body : Regex Symbol} : Consumes (.optional body) []
  | present {body : Regex Symbol} {consumed : List Symbol}
      (consumes : Consumes body consumed) : Consumes (.optional body) consumed
  | group {index : ℕ} {body : Regex Symbol} {consumed : List Symbol}
      (consumes : Consumes body consumed) : Consumes (.group index body) consumed
  | starNil {body : Regex Symbol} : Consumes (.star body) []
  | starCons {body : Regex Symbol} {before after : List Symbol}
      (consumesFirst : Consumes body before)
      (consumesRest : Consumes (.star body) after) :
      Consumes (.star body) (before ++ after)
  | lazyNil {body : Regex Symbol} : Consumes (.lazyStar body) []
  | lazyCons {body : Regex Symbol} {before after : List Symbol}
      (consumesFirst : Consumes body before)
      (consumesRest : Consumes (.lazyStar body) after) :
      Consumes (.lazyStar body) (before ++ after)

end Regex
end StarterCpp
