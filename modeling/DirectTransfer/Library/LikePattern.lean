import Mathlib.Data.List.Infix

/-! Patterns with wildcards for any run of symbols and for any one symbol. -/

set_option autoImplicit false

namespace DirectTransfer.Library

variable {α : Type}

inductive PatternItem (α : Type) where
  | anyRun
  | anyOne
  | exactly (symbol : α)
  deriving DecidableEq

def matchesPattern [DecidableEq α] : List (PatternItem α) → List α → Bool
  | [], text => text.isEmpty
  | .anyRun :: items, text => text.tails.any fun tail => matchesPattern items tail
  | .anyOne :: _, [] | .exactly _ :: _, [] => false
  | .anyOne :: items, _ :: text => matchesPattern items text
  | .exactly symbol :: items, first :: text =>
      decide (symbol = first) && matchesPattern items text

/-- How a text is cut into what the items of a pattern stand for. -/
inductive Fits : List (PatternItem α) → List α → Prop where
  | nil : Fits [] []
  | anyRun {items : List (PatternItem α)} {text : List α} (skipped : List α) :
      Fits items text → Fits (.anyRun :: items) (skipped ++ text)
  | anyOne {items : List (PatternItem α)} {text : List α} (symbol : α) :
      Fits items text → Fits (.anyOne :: items) (symbol :: text)
  | exactly {items : List (PatternItem α)} {text : List α} (symbol : α) :
      Fits items text → Fits (.exactly symbol :: items) (symbol :: text)

theorem matchesPattern_iff [DecidableEq α] {items : List (PatternItem α)} {text : List α} :
    matchesPattern items text = true ↔ Fits items text := by
  induction items generalizing text with
  | nil =>
      constructor
      · intro matched
        rw [List.isEmpty_iff.mp matched]
        exact .nil
      · intro fits
        cases fits
        rfl
  | cons item items ih =>
      cases item with
      | anyRun =>
          simp only [matchesPattern, List.any_eq_true, List.mem_tails, ih]
          constructor
          · intro found
            obtain ⟨tail, ⟨skipped, split⟩, fits⟩ := found
            rw [← split]
            exact .anyRun skipped fits
          · intro fits
            cases fits with
            | anyRun skipped fits => exact ⟨_, List.suffix_append _ _, fits⟩
      | anyOne =>
          constructor
          · intro matched
            cases text with
            | nil => cases matched
            | cons first text => exact .anyOne first (ih.mp matched)
          · intro fits
            cases fits with
            | anyOne symbol fits => exact ih.mpr fits
      | exactly symbol =>
          constructor
          · intro matched
            cases text with
            | nil => cases matched
            | cons first text =>
                simp only [matchesPattern, Bool.and_eq_true, decide_eq_true_eq, ih] at matched
                obtain ⟨same, fits⟩ := matched
                rw [← same]
                exact .exactly symbol fits
          · intro fits
            cases fits with
            | exactly _ fits => simp [matchesPattern, ih.mpr fits]

theorem fits_exactly {word text : List α} : Fits (word.map .exactly) text ↔ text = word := by
  induction word generalizing text with
  | nil =>
      constructor
      · intro fits
        cases fits
        rfl
      · intro same
        rw [same]
        exact .nil
  | cons symbol word ih =>
      constructor
      · intro fits
        cases fits with
        | exactly _ fits => rw [ih.mp fits]
      · intro same
        rw [same]
        exact .exactly symbol (ih.mpr rfl)

theorem fits_before_run {items : List (PatternItem α)} {text : List α} :
    Fits (items ++ [.anyRun]) text ↔ ∃ first, first <+: text ∧ Fits items first := by
  induction items generalizing text with
  | nil =>
      constructor
      · intro _
        exact ⟨[], List.nil_prefix, .nil⟩
      · intro _
        rw [← List.append_nil text]
        exact .anyRun text .nil
  | cons item items ih =>
      constructor
      · intro fits
        cases fits with
        | anyRun skipped fits =>
            obtain ⟨first, ⟨rest, split⟩, fits⟩ := ih.mp fits
            exact ⟨skipped ++ first, ⟨rest, by rw [List.append_assoc, split]⟩, .anyRun skipped fits⟩
        | anyOne symbol fits =>
            obtain ⟨first, leads, fits⟩ := ih.mp fits
            exact ⟨symbol :: first, (List.prefix_cons_inj symbol).mpr leads, .anyOne symbol fits⟩
        | exactly symbol fits =>
            obtain ⟨first, leads, fits⟩ := ih.mp fits
            exact ⟨symbol :: first, (List.prefix_cons_inj symbol).mpr leads, .exactly symbol fits⟩
      · intro found
        obtain ⟨first, ⟨rest, split⟩, fits⟩ := found
        rw [← split]
        cases fits with
        | anyRun skipped fits =>
            rw [List.append_assoc]
            exact .anyRun skipped (ih.mpr ⟨_, List.prefix_append _ _, fits⟩)
        | anyOne symbol fits => exact .anyOne symbol (ih.mpr ⟨_, List.prefix_append _ _, fits⟩)
        | exactly symbol fits => exact .exactly symbol (ih.mpr ⟨_, List.prefix_append _ _, fits⟩)

/-- A pattern between two runs is looked for anywhere in the text. -/
theorem fits_anywhere {items : List (PatternItem α)} {text : List α} :
    Fits (.anyRun :: (items ++ [.anyRun])) text ↔ ∃ part, part <:+: text ∧ Fits items part := by
  constructor
  · intro fits
    cases fits with
    | anyRun skipped fits =>
        obtain ⟨part, ⟨rest, split⟩, fits⟩ := fits_before_run.mp fits
        exact ⟨part, ⟨skipped, rest, by rw [List.append_assoc, split]⟩, fits⟩
  · intro found
    obtain ⟨part, ⟨skipped, rest, split⟩, fits⟩ := found
    rw [← split, List.append_assoc]
    exact .anyRun skipped (fits_before_run.mpr ⟨part, List.prefix_append _ _, fits⟩)

section Collapse

variable {reads : α → PatternItem α}

/-- A text with nothing for each run and `other` for each wildcard of one symbol. -/
def collapse (reads : α → PatternItem α) (other : α) : List α → List α
  | [] => []
  | symbol :: word => match reads symbol with
    | .anyRun => collapse reads other word
    | .anyOne => other :: collapse reads other word
    | .exactly symbol => symbol :: collapse reads other word

theorem fits_collapse (other : α) (word : List α) :
    Fits (word.map reads) (collapse reads other word) := by
  induction word with
  | nil => exact .nil
  | cons symbol word ih =>
      simp only [List.map_cons, collapse]
      cases reads symbol with
      | anyRun => exact .anyRun [] ih
      | anyOne => exact .anyOne other ih
      | exactly symbol => exact .exactly symbol ih

theorem length_collapse_le (other : α) (word : List α) :
    (collapse reads other word).length ≤ word.length := by
  induction word with
  | nil => exact Nat.le_refl _
  | cons symbol word ih =>
      simp only [collapse, List.length_cons]
      cases reads symbol with
      | anyRun => exact Nat.le_succ_of_le ih
      | anyOne => exact Nat.succ_le_succ ih
      | exactly symbol => exact Nat.succ_le_succ ih

theorem mem_collapse {other symbol : α} {word : List α}
    (member : symbol ∈ collapse reads other word) :
    symbol = other ∨ ∃ read ∈ word, reads read = .exactly symbol := by
  induction word with
  | nil => cases member
  | cons head word ih =>
      have earlier : (symbol = other ∨ ∃ read ∈ word, reads read = .exactly symbol) →
          symbol = other ∨ ∃ read ∈ head :: word, reads read = .exactly symbol := by
        intro found
        cases found with
        | inl same => exact .inl same
        | inr found =>
            obtain ⟨read, member, stands⟩ := found
            exact .inr ⟨read, List.mem_cons_of_mem _ member, stands⟩
      simp only [collapse] at member
      cases kind : reads head with
      | anyRun =>
          rw [kind] at member
          exact earlier (ih member)
      | anyOne =>
          rw [kind] at member
          cases member with
          | head => exact .inl rfl
          | tail _ later => exact earlier (ih later)
      | exactly stands =>
          rw [kind] at member
          cases member with
          | head => exact .inr ⟨head, List.mem_cons_self, kind⟩
          | tail _ later => exact earlier (ih later)

/-- Only a word without wildcards is found in its collapse. -/
theorem exactly_of_infix_collapse {other : α} (distinct : ∀ symbol, reads symbol = .anyOne →
      symbol ≠ other) {word : List α} (found : word <:+: collapse reads other word) :
    ∀ symbol ∈ word, ∃ stands, reads symbol = .exactly stands := by
  have whole := found.eq_of_length_le (length_collapse_le other word)
  clear found
  induction word with
  | nil => intro symbol member; cases member
  | cons symbol word ih =>
      cases kind : reads symbol with
      | anyRun =>
          have short : (collapse reads other (symbol :: word)).length ≤ word.length := by
            rw [collapse, kind]
            exact length_collapse_le other word
          rw [← whole, List.length_cons] at short
          exact absurd short (Nat.not_succ_le_self _)
      | anyOne =>
          rw [collapse, kind] at whole
          exact absurd (List.cons.inj whole).1 (distinct symbol kind)
      | exactly stands =>
          rw [collapse, kind] at whole
          intro wanted member
          cases member with
          | head => exact ⟨stands, kind⟩
          | tail _ later => exact ih (List.cons.inj whole).2 wanted later

end Collapse

end DirectTransfer.Library
