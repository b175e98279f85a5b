import EntityQuery.Proofs.Lexing.Pieces
import EntityQuery.Sql.Token

/-!
The texts of numbers are numbers to the lexer: integers are digits after at most a minus sign, and a
double has a point among its digits, or an exponent after them, or both.
-/

namespace EntityQuery.Sql

open EntityQuery.Decimal

namespace Lexing

/-! The form of a number -/

def IsDigits (ds : List Char) : Prop := ds ≠ [] ∧ ∀ c ∈ ds, c.isDigit = true

def IsSign (s : List Char) : Prop := s = [] ∨ s = ['-'] ∨ s = ['+']

def IsFraction (f : List Char) : Prop := f = [] ∨ ∃ ds, IsDigits ds ∧ f = '.' :: ds

def IsExponent (e : List Char) : Prop :=
  e = [] ∨ ∃ s ds, IsSign s ∧ IsDigits ds ∧ e = 'e' :: (s ++ ds)

def IsNumber (cs : List Char) : Prop :=
  ∃ s w f e, IsSign s ∧ IsDigits w ∧ IsFraction f ∧ IsExponent e ∧ cs = s ++ (w ++ (f ++ e))

/-! Reading them -/

variable {ds f e r s : List Char}

theorem IsDigits.exists_cons (h : IsDigits ds) :
    ∃ c cs, c.isDigit = true ∧ ds = c :: cs := by
  obtain ⟨hne, hd⟩ := h
  cases ds with
  | nil => exact absurd rfl hne
  | cons c cs => exact ⟨c, cs, hd c (.head _), rfl⟩

theorem sign_append_digits (hs : IsSign s) (h : IsDigits ds) (r : List Char) :
    sign (s ++ (ds ++ r)) = (s, ds ++ r) := by
  rcases hs with rfl | rfl | rfl
  · obtain ⟨c, cs, hc, rfl⟩ := h.exists_cons
    rw [List.nil_append, List.cons_append]
    unfold sign
    split
    · rename_i he
      cases he
      cases hc
    · rename_i he
      cases he
      cases hc
    · rfl
  · rfl
  · rfl

theorem digitsAfter_digits (lead : List Char) (h : IsDigits ds)
    (hr : ∀ c ∈ r.head?, c.isDigit = false) :
    digitsAfter lead (ds ++ r) = (lead ++ ds, r) := by
  have hne : ds.isEmpty = false := List.isEmpty_eq_false_iff.2 h.1
  unfold digitsAfter
  simp only [takeWhile_append_of_head h.2 hr, dropWhile_append_of_head h.2 hr, hne]
  rfl

theorem isDigit_head_exponent (he : IsExponent e) (hr : Stops r) :
    ∀ c ∈ (e ++ r).head?, c.isDigit = false := by
  rcases he with rfl | ⟨s, ds, -, -, rfl⟩
  · exact hr.head_not fun c => isDigit_of_isStop
  · rintro c ⟨⟩
    rfl

theorem isDigit_head_fraction (hf : IsFraction f) (he : IsExponent e) (hr : Stops r) :
    ∀ c ∈ (f ++ (e ++ r)).head?, c.isDigit = false := by
  rcases hf with rfl | ⟨ds, -, rfl⟩
  · rw [List.nil_append]
    exact isDigit_head_exponent he hr
  · rintro c ⟨⟩
    rfl

theorem fraction_append_exponent (hf : IsFraction f) (he : IsExponent e) (hr : Stops r) :
    fraction (f ++ (e ++ r)) = (f, e ++ r) := by
  rcases hf with rfl | ⟨ds, hds, rfl⟩
  · have hdot : ∀ c ∈ (e ++ r).head?, c ≠ '.' := by
      rcases he with rfl | ⟨s, ds, -, -, rfl⟩
      · rintro c hc rfl
        cases hr _ hc
      · rintro c ⟨⟩
        decide
    unfold fraction
    split
    · rename_i r' heq
      rw [List.nil_append] at heq
      exact absurd rfl (hdot '.' (by rw [heq]; rfl))
    · rfl
  · exact digitsAfter_digits ['.'] hds (isDigit_head_exponent he hr)

theorem exponent_append_stop (he : IsExponent e) (hr : Stops r) :
    exponent (e ++ r) = (e, r) := by
  rcases he with rfl | ⟨s, ds, hs, hds, rfl⟩
  · rw [List.nil_append]
    unfold exponent
    split
    · cases hr 'e' rfl
    · cases hr 'E' rfl
    · rfl
  · have hd := hr.head_not fun c => isDigit_of_isStop
    have hl : exponent ('e' :: (s ++ ds) ++ r) =
        digitsAfter ('e' :: (sign (s ++ ds ++ r)).1) (sign (s ++ ds ++ r)).2 := rfl
    rw [hl, List.append_assoc, sign_append_digits hs hds, digitsAfter_digits _ hds hd]
    rfl

theorem number_append {cs : List Char} (h : IsNumber cs) (hr : Stops r) :
    number (cs ++ r) = some (cs, r) := by
  obtain ⟨s, w, f, e, hs, hw, hf, he, rfl⟩ := h
  have hne : (s ++ w).isEmpty = false := by
    rw [List.isEmpty_eq_false_iff]
    intro h
    exact hw.1 (List.append_eq_nil_iff.1 h).2
  simp only [number, List.append_assoc]
  rw [sign_append_digits hs hw, digitsAfter_digits s hw (isDigit_head_fraction hf he hr)]
  simp only [fraction_append_exponent hf he hr, exponent_append_stop he hr, hne]
  simp

/-- A number starts with a digit or a sign. -/
theorem IsNumber.exists_cons {cs : List Char} (h : IsNumber cs) :
    ∃ c r, (c.isDigit = true ∨ c = '-' ∨ c = '+') ∧ cs = c :: r := by
  obtain ⟨s, w, f, e, hs, hw, -, -, rfl⟩ := h
  obtain ⟨c, cs, hc, rfl⟩ := hw.exists_cons
  rcases hs with rfl | rfl | rfl
  · exact ⟨c, cs ++ (f ++ e), .inl hc, rfl⟩
  · exact ⟨'-', c :: cs ++ (f ++ e), .inr (.inl rfl), rfl⟩
  · exact ⟨'+', c :: cs ++ (f ++ e), .inr (.inr rfl), rfl⟩

end Lexing

open Lexing

theorem Lexing.isAlpha_of_isDigit {c : Char} (h : c.isDigit = true) : c.isAlpha = false := by
  rw [Char.isDigit, Bool.and_eq_true, decide_eq_true_eq, decide_eq_true_eq] at h
  have h₁ : 48 ≤ c.toNat := h.1
  have h₂ : c.toNat ≤ 57 := h.2
  have hu : ¬ 'A'.toNat ≤ c.toNat := by
    intro hle
    have hA : 'A'.toNat = 65 := rfl
    omega
  have hl : ¬ 'a'.toNat ≤ c.toNat := by
    intro hle
    have ha : 'a'.toNat = 97 := rfl
    omega
  have hupper : c.isUpper = false := decide_eq_false fun h => hu h.1
  have hlower : c.isLower = false := by
    change (decide (c.val ≥ 'a'.val) && decide (c.val ≤ 'z'.val)) = false
    exact Bool.and_eq_false_iff.2 (.inl (decide_eq_false hl))
  change (c.isUpper || c.isLower) = false
  rw [hupper, hlower, Bool.or_false]

theorem Dialect.lexeme_number {d : Dialect} {cs r : List Char} (h : IsNumber cs) (hr : Stops r) :
    d.lexeme (cs ++ r) = some (.number (String.ofList cs), r) := by
  have hn := number_append h hr
  obtain ⟨c, cs, hc, rfl⟩ := h.exists_cons
  -- no other kind of lexeme starts so
  have hne {x : Char} (hx : x.isDigit = false ∧ x ≠ '-' ∧ x ≠ '+') : c ≠ x := by
    rintro rfl
    rcases hc with hc | hc | hc
    · exact Bool.false_ne_true (hx.1.symm.trans hc)
    · exact hx.2.1 hc
    · exact hx.2.2 hc
  have hd : c ≠ (delimiters d).1 := hne (by cases d <;> decide)
  have hq : c ≠ '\'' := hne (by decide)
  have hN : (c == 'N') = false := beq_eq_false_iff_ne.2 (hne (by decide))
  have hw : ¬ isWordStart c = true := by
    rcases hc with hc | rfl | rfl
    · rw [isWordStart, isAlpha_of_isDigit hc, Bool.false_or, beq_iff_eq]
      exact hne (by decide)
    · decide
    · decide
  rw [List.cons_append] at hn ⊢
  rw [lexeme, if_neg hd, if_neg hq, hN, Bool.and_false, Bool.false_and,
    if_neg Bool.false_ne_true, if_neg hw, hn]
  rfl

/-! The texts of numbers -/

namespace Lexing

theorem isDigits_toDigits (n : Nat) : IsDigits (Nat.toDigits 10 n) :=
  ⟨Nat.toDigits_ne_nil, fun _ => Nat.isDigit_of_mem_toDigits (by decide) (by decide)⟩

theorem isDigits_zero : IsDigits ['0'] :=
  ⟨List.cons_ne_nil _ _, List.forall_mem_singleton.2 rfl⟩

theorem IsDigits.append {ds es : List Char} (hd : IsDigits ds)
    (he : ∀ c ∈ es, c.isDigit = true) : IsDigits (ds ++ es) := by
  refine ⟨fun h => hd.1 (List.append_eq_nil_iff.1 h).1, fun c hc => ?_⟩
  rcases List.mem_append.1 hc with hc | hc
  · exact hd.2 c hc
  · exact he c hc

theorem isDigit_of_mem_zeros {n : Int} {c : Char} (h : c ∈ Layout.zeros n) : c.isDigit = true := by
  rw [(List.mem_replicate.1 h).2]
  rfl

theorem isNumber_digits {ds : List Char} (h : IsDigits ds) : IsNumber ds :=
  ⟨[], ds, [], [], .inl rfl, h, .inl rfl, .inl rfl, by simp⟩

theorem isNumber_nat (n : Nat) : IsNumber (toString n).toList := by
  rw [Nat.toString_eq_ofList_toDigits, String.toList_ofList]
  exact isNumber_digits (isDigits_toDigits n)

theorem isNumber_int (n : Int) : IsNumber (toString n).toList := by
  rw [Int.toString_eq_repr, Int.repr_eq_if]
  split
  · exact isNumber_nat n.toNat
  · refine ⟨['-'], _, [], [], .inr (.inl rfl), isDigits_toDigits (-n).toNat, .inl rfl, .inl rfl, ?_⟩
    have hs : "-".toList = ['-'] := rfl
    rw [String.toList_append, hs, Nat.repr_eq_ofList_toDigits, String.toList_ofList,
      List.append_nil, List.append_nil]

theorem isDigits_shortest (tie : Tie) (x : Binary64) : IsDigits (shortest tie x).digits := by
  unfold shortest
  simp only
  split
  · split
    · exact isDigits_zero
    · exact isDigits_toDigits _
  · exact isDigits_zero

/-- Positional notation has digits, and a fraction unless the number is whole. -/
theorem isNumber_writePositional (l : Layout) {d : Digits} (h : IsDigits d.digits) :
    ∃ w f, IsDigits w ∧ IsFraction f ∧ l.writePositional d = w ++ f := by
  unfold Layout.writePositional
  simp only
  split
  · refine ⟨['0'], '.' :: (Layout.zeros (-d.point) ++ d.digits), isDigits_zero,
      .inr ⟨_, ⟨?_, ?_⟩, rfl⟩, rfl⟩
    · intro hn
      exact h.1 (List.append_eq_nil_iff.1 hn).2
    · intro c hc
      rcases List.mem_append.1 hc with hc | hc
      · exact isDigit_of_mem_zeros hc
      · exact h.2 c hc
  · split
    · rename_i hpos hlt
      refine ⟨_, _, ⟨?_, ?_⟩, .inr ⟨_, ⟨?_, ?_⟩, rfl⟩, rfl⟩
      · have hl := List.length_pos_iff.2 h.1
        rw [← List.length_pos_iff, List.length_take]
        omega
      · exact fun c hc => h.2 c (List.mem_of_mem_take hc)
      · rw [← List.length_pos_iff, List.length_drop]
        omega
      · exact fun c hc => h.2 c (List.mem_of_mem_drop hc)
    · refine ⟨_, _, h.append fun c => isDigit_of_mem_zeros, ?_, rfl⟩
      cases l.keepsPoint with
      | true => exact .inr ⟨['0'], isDigits_zero, rfl⟩
      | false => exact .inl rfl

theorem isExponent_writeExponent (l : Layout) (e : Int) : IsExponent (l.writeExponent e) := by
  refine .inr ⟨_, _, ?_, isDigits_toDigits e.natAbs, rfl⟩
  split
  · exact .inr (.inl rfl)
  · split
    · exact .inr (.inr rfl)
    · exact .inl rfl

theorem isNumber_write (l : Layout) (x : Binary64) : IsNumber (l.write x).toList := by
  have hd := isDigits_shortest l.tie x
  have hbody : ∃ w f e, IsDigits w ∧ IsFraction f ∧ IsExponent e ∧
      (if l.positional (shortest l.tie x).point then l.writePositional (shortest l.tie x)
        else l.writeScientific (shortest l.tie x)) = w ++ (f ++ e) := by
    split
    · obtain ⟨w, f, hw, hf, he⟩ := isNumber_writePositional l hd
      exact ⟨w, f, [], hw, hf, .inl rfl, by rw [he, List.append_nil]⟩
    · have hexp := isExponent_writeExponent l ((shortest l.tie x).point - 1)
      unfold Layout.writeScientific
      simp only
      split
      · rename_i c c' r hc
        rw [hc] at hd
        refine ⟨[c], '.' :: c' :: r, _, ⟨by simp, ?_⟩, .inr ⟨_, ⟨by simp, ?_⟩, rfl⟩, hexp, rfl⟩
        · exact fun x hx => hd.2 x (by simp at hx; simp [hx])
        · exact fun x hx => hd.2 x (.tail _ hx)
      · exact ⟨_, [], _, hd, .inl rfl, hexp, rfl⟩
  obtain ⟨w, f, e, hw, hf, he, hb⟩ := hbody
  rw [Layout.write]
  simp only [hb, String.toList_ofList]
  split
  · exact ⟨['-'], w, f, e, .inr (.inl rfl), hw, hf, he, rfl⟩
  · exact ⟨[], w, f, e, .inl rfl, hw, hf, he, rfl⟩

end Lexing

end EntityQuery.Sql
