import StarterCpp.Library.Regex

/-!
# How patterns match

A match consumes a text that the pattern describes.  In the other direction each kind
of pattern has a rule that finds its match, when what comes after succeeds on the
rest of the text.
-/

namespace StarterCpp
namespace Regex

variable {Symbol Result : Type*}
variable {captures : Captures Symbol}
variable {next : Continuation Symbol Result}
variable {result : Result}

/-! ## Equations -/

@[simp] theorem run_empty (text : List Symbol) :
    run .empty text captures next = next text captures :=
  rfl

@[simp] theorem run_symbol_nil (accepts : Symbol → Bool) :
    run (.symbol accepts) [] captures next = none :=
  rfl

@[simp] theorem run_symbol_cons
    (accepts : Symbol → Bool)
    (head : Symbol)
    (text : List Symbol) :
    run (.symbol accepts) (head :: text) captures next =
      if accepts head then next text captures else none :=
  rfl

@[simp] theorem run_append
    (first second : Regex Symbol)
    (text : List Symbol) :
    run (.append first second) text captures next =
      first.run text captures fun rest found => second.run rest found next :=
  rfl

theorem run_optional (body : Regex Symbol) (text : List Symbol) :
    run (.optional body) text captures next =
      (body.run text captures next).or (next text captures) :=
  rfl

/-- Above the length of the text the bound does not matter. -/
theorem repeated_eq
    (goOn : Bool)
    (once : Matcher Symbol Result)
    {bound otherBound : ℕ}
    {text : List Symbol}
    (above : text.length < bound)
    (otherAbove : text.length < otherBound) :
    repeated goOn once bound text captures next =
      repeated goOn once otherBound text captures next := by
  induction bound generalizing otherBound text captures with
  | zero => omega
  | succ bound inductionHypothesis =>
      obtain ⟨otherBound, rfl⟩ : ∃ smaller, otherBound = smaller + 1 :=
        ⟨otherBound - 1, by omega⟩
      have same : ∀ rest found,
          (if rest.length < text.length then repeated goOn once bound rest found next
            else none) =
          (if rest.length < text.length then
            repeated goOn once otherBound rest found next else none) := by
        intro rest found
        split
        · exact inductionHypothesis (by omega) (by omega)
        · rfl
      simp only [repeated, same]

/-- A greedy repetition goes on first. -/
theorem run_star (body : Regex Symbol) (text : List Symbol) :
    run (.star body) text captures next =
      (body.run text captures fun rest found =>
        if rest.length < text.length then (star body).run rest found next
        else none).or (next text captures) := by
  have same : ∀ rest found,
      (if rest.length < text.length then
        repeated true body.run text.length rest found next else none) =
      (if rest.length < text.length then (star body).run rest found next
        else none) := by
    intro rest found
    split
    · exact repeated_eq true body.run (by omega) (by omega)
    · rfl
  simp only [← same]
  rfl

/-- A lazy repetition stops first. -/
theorem run_lazyStar (body : Regex Symbol) (text : List Symbol) :
    run (.lazyStar body) text captures next =
      (next text captures).or
        (body.run text captures fun rest found =>
          if rest.length < text.length then (lazyStar body).run rest found next
          else none) := by
  have same : ∀ rest found,
      (if rest.length < text.length then
        repeated false body.run text.length rest found next else none) =
      (if rest.length < text.length then (lazyStar body).run rest found next
        else none) := by
    intro rest found
    split
    · exact repeated_eq false body.run (by omega) (by omega)
    · rfl
  simp only [← same]
  rfl

/-! ## What is consumed -/

/-- A repetition consumes what its body consumes, one time after the other. -/
theorem consumes_of_repeated
    {goOn : Bool}
    {body loop : Regex Symbol}
    (body_consumes : ∀ {text captures} {next : Continuation Symbol Result} {result},
      body.run text captures next = some result →
        ∃ consumed rest found,
          text = consumed ++ rest ∧ Consumes body consumed ∧
            next rest found = some result)
    (nil : Consumes loop [])
    (cons : ∀ {before after}, Consumes body before → Consumes loop after →
      Consumes loop (before ++ after))
    {bound : ℕ}
    {text : List Symbol}
    (matched : repeated goOn body.run bound text captures next = some result) :
    ∃ consumed rest found,
      text = consumed ++ rest ∧ Consumes loop consumed ∧
        next rest found = some result := by
  induction bound generalizing text captures with
  | zero => simp [repeated] at matched
  | succ bound inductionHypothesis =>
      have cases : next text captures = some result ∨
          (body.run text captures fun rest found =>
            if rest.length < text.length then
              repeated goOn body.run bound rest found next
            else none) = some result := by
        cases goOn <;>
          simp only [repeated, Bool.false_eq_true, if_true, if_false,
            Option.or_eq_some_iff] at matched <;> tauto
      rcases cases with stop | further
      · exact ⟨[], text, captures, rfl, nil, stop⟩
      · obtain ⟨before, middle, found, rfl, consumesFirst, matchedRest⟩ :=
          body_consumes further
        rw [Option.ite_none_right_eq_some] at matchedRest
        obtain ⟨after, rest, last, rfl, consumesRest, matchedNext⟩ :=
          inductionHypothesis matchedRest.2
        exact ⟨before ++ after, rest, last, (List.append_assoc _ _ _).symm,
          cons consumesFirst consumesRest, matchedNext⟩

/-- A match consumes a text that the pattern describes, and what comes after succeeds
on the rest. -/
theorem consumes_of_run
    {pattern : Regex Symbol}
    {text : List Symbol}
    (matched : pattern.run text captures next = some result) :
    ∃ consumed rest found,
      text = consumed ++ rest ∧ Consumes pattern consumed ∧
        next rest found = some result := by
  induction pattern generalizing text captures next result with
  | empty => exact ⟨[], text, captures, rfl, .empty, matched⟩
  | symbol accepts =>
      cases text with
      | nil => simp at matched
      | cons head text =>
          rw [run_symbol_cons, Option.ite_none_right_eq_some] at matched
          exact ⟨[head], text, captures, rfl, .symbol matched.1, matched.2⟩
  | append first second firstHypothesis secondHypothesis =>
      obtain ⟨before, middle, found, rfl, consumesFirst, matchedSecond⟩ :=
        firstHypothesis matched
      obtain ⟨after, rest, last, rfl, consumesSecond, matchedNext⟩ :=
        secondHypothesis matchedSecond
      exact ⟨before ++ after, rest, last, (List.append_assoc _ _ _).symm,
        .append consumesFirst consumesSecond, matchedNext⟩
  | optional body inductionHypothesis =>
      rw [run_optional, Option.or_eq_some_iff] at matched
      rcases matched with present | ⟨-, absent⟩
      · obtain ⟨consumed, rest, found, split, consumes, matchedNext⟩ :=
          inductionHypothesis present
        exact ⟨consumed, rest, found, split, .present consumes, matchedNext⟩
      · exact ⟨[], text, captures, rfl, .absent, absent⟩
  | star body inductionHypothesis =>
      exact consumes_of_repeated inductionHypothesis .starNil .starCons matched
  | lazyStar body inductionHypothesis =>
      exact consumes_of_repeated inductionHypothesis .lazyNil .lazyCons matched
  | group index body inductionHypothesis =>
      obtain ⟨consumed, rest, found, split, consumes, matchedNext⟩ :=
        inductionHypothesis matched
      exact ⟨consumed, rest, _, split, .group consumes, matchedNext⟩

/-- No match, where what comes after fails on the rest of every consumed text. -/
theorem run_eq_none
    {pattern : Regex Symbol}
    {text : List Symbol}
    (fails : ∀ consumed rest found, text = consumed ++ rest →
      Consumes pattern consumed → next rest found = none) :
    pattern.run text captures next = none := by
  rw [Option.eq_none_iff_forall_ne_some]
  intro result matched
  obtain ⟨consumed, rest, found, split, consumes, matchedNext⟩ :=
    consumes_of_run matched
  simp [fails consumed rest found split consumes] at matchedNext

theorem consumes_of_matchAt
    {pattern : Regex Symbol}
    {text rest : List Symbol}
    {found : Captures Symbol}
    (matched : pattern.matchAt text = some (found, rest)) :
    ∃ consumed, text = consumed ++ rest ∧ Consumes pattern consumed := by
  obtain ⟨consumed, after, last, split, consumes, same⟩ := consumes_of_run matched
  obtain ⟨-, rfl⟩ := Prod.mk.inj (Option.some.inj same)
  exact ⟨consumed, split, consumes⟩

theorem matchAt_eq_none
    {pattern : Regex Symbol}
    {text : List Symbol}
    (fails : ∀ consumed rest, text = consumed ++ rest → ¬Consumes pattern consumed) :
    pattern.matchAt text = none := by
  rw [Option.eq_none_iff_forall_ne_some]
  rintro ⟨found, rest⟩ matched
  obtain ⟨consumed, split, consumes⟩ := consumes_of_matchAt matched
  exact fails consumed rest split consumes

/-! ## Languages -/

@[simp] theorem consumes_empty_iff {consumed : List Symbol} :
    Consumes .empty consumed ↔ consumed = [] := by
  constructor
  · rintro ⟨⟩
    rfl
  · rintro rfl
    exact .empty

@[simp] theorem consumes_symbol_iff
    {accepts : Symbol → Bool}
    {consumed : List Symbol} :
    Consumes (.symbol accepts) consumed ↔
      ∃ head, accepts head = true ∧ consumed = [head] := by
  constructor
  · rintro (_ | accepted)
    exact ⟨_, accepted, rfl⟩
  · rintro ⟨head, accepted, rfl⟩
    exact .symbol accepted

theorem consumes_append_iff
    {first second : Regex Symbol}
    {consumed : List Symbol} :
    Consumes (.append first second) consumed ↔
      ∃ before after, consumed = before ++ after ∧ Consumes first before ∧
        Consumes second after := by
  constructor
  · intro consumes
    cases consumes with
    | append consumesFirst consumesSecond =>
        exact ⟨_, _, rfl, consumesFirst, consumesSecond⟩
  · rintro ⟨before, after, rfl, consumesFirst, consumesSecond⟩
    exact .append consumesFirst consumesSecond

theorem consumes_optional_iff
    {body : Regex Symbol}
    {consumed : List Symbol} :
    Consumes (.optional body) consumed ↔ consumed = [] ∨ Consumes body consumed := by
  constructor
  · intro consumes
    cases consumes with
    | absent => exact .inl rfl
    | present consumes => exact .inr consumes
  · rintro (rfl | consumes)
    · exact .absent
    · exact .present consumes

@[simp] theorem consumes_group_iff
    {index : ℕ}
    {body : Regex Symbol}
    {consumed : List Symbol} :
    Consumes (.group index body) consumed ↔ Consumes body consumed := by
  constructor
  · intro consumes
    cases consumes with
    | group consumes => exact consumes
  · exact .group

/-- A repeated symbol consumes accepted symbols. -/
@[simp] theorem consumes_star_symbol_iff
    {accepts : Symbol → Bool}
    {consumed : List Symbol} :
    Consumes (.star (.symbol accepts)) consumed ↔
      ∀ head ∈ consumed, accepts head = true := by
  constructor
  · intro consumes
    generalize loop : star (symbol accepts) = pattern at consumes
    induction consumes with
    | starNil => simp
    | starCons consumesFirst _ _ inductionHypothesis =>
        cases loop
        obtain ⟨head, accepted, rfl⟩ := consumes_symbol_iff.mp consumesFirst
        simpa [accepted] using inductionHypothesis rfl
    | _ => cases loop
  · intro accepted
    induction consumed with
    | nil => exact .starNil
    | cons head consumed inductionHypothesis =>
        obtain ⟨acceptedHead, acceptedRest⟩ := List.forall_mem_cons.mp accepted
        exact .starCons (.symbol acceptedHead) (inductionHypothesis acceptedRest)

@[simp] theorem consumes_lazyStar_symbol_iff
    {accepts : Symbol → Bool}
    {consumed : List Symbol} :
    Consumes (.lazyStar (.symbol accepts)) consumed ↔
      ∀ head ∈ consumed, accepts head = true := by
  constructor
  · intro consumes
    generalize loop : lazyStar (symbol accepts) = pattern at consumes
    induction consumes with
    | lazyNil => simp
    | lazyCons consumesFirst _ _ inductionHypothesis =>
        cases loop
        obtain ⟨head, accepted, rfl⟩ := consumes_symbol_iff.mp consumesFirst
        simpa [accepted] using inductionHypothesis rfl
    | _ => cases loop
  · intro accepted
    induction consumed with
    | nil => exact .lazyNil
    | cons head consumed inductionHypothesis =>
        obtain ⟨acceptedHead, acceptedRest⟩ := List.forall_mem_cons.mp accepted
        exact .lazyCons (.symbol acceptedHead) (inductionHypothesis acceptedRest)

@[simp] theorem consumes_plus_symbol_iff
    {accepts : Symbol → Bool}
    {consumed : List Symbol} :
    Consumes (plus (.symbol accepts)) consumed ↔
      consumed ≠ [] ∧ ∀ head ∈ consumed, accepts head = true := by
  rw [plus, consumes_append_iff]
  constructor
  · rintro ⟨before, after, rfl, consumesFirst, consumesRest⟩
    obtain ⟨head, accepted, rfl⟩ := consumes_symbol_iff.mp consumesFirst
    simpa [accepted] using consumes_star_symbol_iff.mp consumesRest
  · rintro ⟨nonempty, accepted⟩
    obtain ⟨head, rest, rfl⟩ := List.exists_cons_of_ne_nil nonempty
    obtain ⟨acceptedHead, acceptedRest⟩ := List.forall_mem_cons.mp accepted
    exact ⟨[head], rest, rfl, .symbol acceptedHead,
      consumes_star_symbol_iff.mpr acceptedRest⟩

@[simp] theorem consumes_lazyPlus_symbol_iff
    {accepts : Symbol → Bool}
    {consumed : List Symbol} :
    Consumes (lazyPlus (.symbol accepts)) consumed ↔
      consumed ≠ [] ∧ ∀ head ∈ consumed, accepts head = true := by
  rw [lazyPlus, consumes_append_iff]
  constructor
  · rintro ⟨before, after, rfl, consumesFirst, consumesRest⟩
    obtain ⟨head, accepted, rfl⟩ := consumes_symbol_iff.mp consumesFirst
    simpa [accepted] using consumes_lazyStar_symbol_iff.mp consumesRest
  · rintro ⟨nonempty, accepted⟩
    obtain ⟨head, rest, rfl⟩ := List.exists_cons_of_ne_nil nonempty
    obtain ⟨acceptedHead, acceptedRest⟩ := List.forall_mem_cons.mp accepted
    exact ⟨[head], rest, rfl, .symbol acceptedHead,
      consumes_lazyStar_symbol_iff.mpr acceptedRest⟩

@[simp] theorem concat_nil : concat ([] : List (Regex Symbol)) = .empty :=
  rfl

@[simp] theorem concat_cons
    (first : Regex Symbol)
    (patterns : List (Regex Symbol)) :
    concat (first :: patterns) = .append first (concat patterns) :=
  rfl

@[simp] theorem literal_nil [DecidableEq Symbol] :
    literal ([] : List Symbol) = .empty :=
  rfl

theorem literal_cons [DecidableEq Symbol] (letter : Symbol) (word : List Symbol) :
    literal (letter :: word) =
      .append (.symbol fun head => head = letter) (literal word) :=
  rfl

@[simp] theorem consumes_literal_iff
    [DecidableEq Symbol]
    {word consumed : List Symbol} :
    Consumes (literal word) consumed ↔ consumed = word := by
  induction word generalizing consumed with
  | nil => simp
  | cons letter word inductionHypothesis =>
      simp [literal_cons, consumes_append_iff, inductionHypothesis]

/-! ## Finding a match -/

@[simp] theorem run_literal
    [DecidableEq Symbol]
    (word rest : List Symbol) :
    run (literal word) (word ++ rest) captures next = next rest captures := by
  induction word with
  | nil => rfl
  | cons letter word inductionHypothesis =>
      simpa [literal_cons] using inductionHypothesis

/-- A repeated symbol takes all that it accepts. -/
theorem run_star_symbol
    {accepts : Symbol → Bool}
    {consumed rest : List Symbol}
    (accepted : ∀ head ∈ consumed, accepts head = true)
    (stops : ∀ head ∈ rest.head?, accepts head = false)
    (matched : next rest captures = some result) :
    run (.star (.symbol accepts)) (consumed ++ rest) captures next =
      some result := by
  induction consumed with
  | nil =>
      rw [run_star]
      cases rest with
      | nil => simpa using matched
      | cons head rest => simpa [stops head rfl] using matched
  | cons head consumed inductionHypothesis =>
      obtain ⟨acceptedHead, acceptedRest⟩ := List.forall_mem_cons.mp accepted
      rw [run_star]
      simp [acceptedHead, inductionHypothesis acceptedRest]

theorem run_plus_symbol
    {accepts : Symbol → Bool}
    {consumed rest : List Symbol}
    (nonempty : consumed ≠ [])
    (accepted : ∀ head ∈ consumed, accepts head = true)
    (stops : ∀ head ∈ rest.head?, accepts head = false)
    (matched : next rest captures = some result) :
    run (plus (.symbol accepts)) (consumed ++ rest) captures next =
      some result := by
  obtain ⟨head, consumed, rfl⟩ := List.exists_cons_of_ne_nil nonempty
  obtain ⟨acceptedHead, acceptedRest⟩ := List.forall_mem_cons.mp accepted
  simp only [plus, run_append, List.cons_append, run_symbol_cons, acceptedHead,
    if_true]
  exact run_star_symbol acceptedRest stops matched

/-- A lazily repeated symbol takes the shortest text after which the rest matches. -/
theorem run_lazyStar_symbol
    {accepts : Symbol → Bool}
    {consumed rest : List Symbol}
    (accepted : ∀ head ∈ consumed, accepts head = true)
    (shortest : ∀ before after, consumed = before ++ after → after ≠ [] →
      next (after ++ rest) captures = none)
    (matched : next rest captures = some result) :
    run (.lazyStar (.symbol accepts)) (consumed ++ rest) captures next =
      some result := by
  induction consumed with
  | nil =>
      rw [run_lazyStar]
      simp only [List.nil_append, matched, Option.some_or]
  | cons head consumed inductionHypothesis =>
      obtain ⟨acceptedHead, acceptedRest⟩ := List.forall_mem_cons.mp accepted
      have later : ∀ before after, consumed = before ++ after → after ≠ [] →
          next (after ++ rest) captures = none := by
        intro before after split nonempty
        exact shortest (head :: before) after (by rw [split]; rfl) nonempty
      rw [run_lazyStar, shortest [] (head :: consumed) rfl (List.cons_ne_nil _ _)]
      simp [acceptedHead, inductionHypothesis acceptedRest later]

theorem run_lazyPlus_symbol
    {accepts : Symbol → Bool}
    {consumed rest : List Symbol}
    (nonempty : consumed ≠ [])
    (accepted : ∀ head ∈ consumed, accepts head = true)
    (shortest : ∀ before after, consumed = before ++ after → before ≠ [] →
      after ≠ [] → next (after ++ rest) captures = none)
    (matched : next rest captures = some result) :
    run (lazyPlus (.symbol accepts)) (consumed ++ rest) captures next =
      some result := by
  obtain ⟨head, consumed, rfl⟩ := List.exists_cons_of_ne_nil nonempty
  obtain ⟨acceptedHead, acceptedRest⟩ := List.forall_mem_cons.mp accepted
  simp only [lazyPlus, run_append, List.cons_append, run_symbol_cons, acceptedHead,
    if_true]
  refine run_lazyStar_symbol acceptedRest ?_ matched
  intro before after split nonempty
  exact shortest (head :: before) after (by rw [split]; rfl) (List.cons_ne_nil _ _)
    nonempty

/-- A repetition goes on, when the body matches and the rest succeeds. -/
theorem run_star_cons
    {body : Regex Symbol}
    {text : List Symbol}
    (matched : (body.run text captures fun rest found =>
      if rest.length < text.length then (star body).run rest found next
      else none) = some result) :
    run (.star body) text captures next = some result := by
  rw [run_star, matched, Option.some_or]

/-- A repetition stops where the body does not match. -/
theorem run_star_stop
    {body : Regex Symbol}
    {text : List Symbol}
    (fails : ∀ consumed rest, text = consumed ++ rest → ¬Consumes body consumed)
    (matched : next text captures = some result) :
    run (.star body) text captures next = some result := by
  rw [run_star, run_eq_none, Option.none_or]
  · exact matched
  · intro consumed rest _ split consumes
    exact absurd consumes (fails consumed rest split)

theorem run_optional_present
    {body : Regex Symbol}
    {text : List Symbol}
    (matched : body.run text captures next = some result) :
    run (.optional body) text captures next = some result := by
  rw [run_optional, matched, Option.some_or]

theorem run_optional_absent
    {body : Regex Symbol}
    {text : List Symbol}
    (fails : ∀ consumed rest, text = consumed ++ rest → ¬Consumes body consumed)
    (matched : next text captures = some result) :
    run (.optional body) text captures next = some result := by
  rw [run_optional, run_eq_none, Option.none_or]
  · exact matched
  · intro consumed rest _ split consumes
    exact absurd consumes (fails consumed rest split)

/-- A group captures what is consumed. -/
theorem run_group
    {index : ℕ}
    {body : Regex Symbol}
    {consumed rest : List Symbol}
    (matched : (body.run (consumed ++ rest) captures fun after found =>
      next after (Function.update found index
        ((consumed ++ rest).take ((consumed ++ rest).length - after.length)))) =
          some result) :
    run (.group index body) (consumed ++ rest) captures next = some result :=
  matched

@[simp] theorem take_consumed (consumed rest : List Symbol) :
    (consumed ++ rest).take ((consumed ++ rest).length - rest.length) =
      consumed := by
  simp

end Regex
end StarterCpp
