import EntityQuery.Sql.Dialect

/-!
How a database splits a statement into lexemes: quoted names and strings, numbers, words and
symbols, with blanks between any two. The lexemes of names and strings hold what is quoted.
-/

namespace EntityQuery.Sql

inductive Lexeme where
  | name (s : String)
  | text (s : String)
  | number (s : String)
  | word (s : String)
  | symbol (s : String)
deriving DecidableEq

namespace Lexing

def isBlank (c : Char) : Bool := c == ' ' || c == '\n' || c == '\t' || c == '\r'

def isWordStart (c : Char) : Bool := c.isAlpha || c == '_'

def isWordPart (c : Char) : Bool := c.isAlphanum || c == '_'

/-! Quoted text -/

/-- The characters that open and close a quoted name. -/
def delimiters : Dialect → Char × Char
  | .postgres | .duckdb => ('"', '"')
  | .mysql => ('\x60', '\x60')
  | .tsql => ('[', ']')

/-- What was read, with a character before it. -/
def before (c : Char) (x : Option (List Char × List Char)) : Option (List Char × List Char) :=
  x.map fun p => (c :: p.1, p.2)

theorem before_eq_some_iff {c : Char} {x : Option (List Char × List Char)} {s r : List Char} :
    before c x = some (s, r) ↔ ∃ s', x = some (s', r) ∧ s = c :: s' := by
  cases x with
  | none => simp [before]
  | some p =>
    obtain ⟨s', r'⟩ := p
    simp only [before, Option.map_some, Option.some.injEq, Prod.mk.injEq]
    constructor
    · rintro ⟨rfl, rfl⟩
      exact ⟨s', ⟨rfl, rfl⟩, rfl⟩
    · rintro ⟨s'', ⟨rfl, rfl⟩, rfl⟩
      exact ⟨rfl, rfl⟩

/-- What stands before the closing character, and what follows that. A closing character that is
doubled stands for itself, and a backslash, where it escapes, for the character after it. -/
def quoted (closing : Char) (escapes : Bool) : List Char → Option (List Char × List Char)
  | [] => none
  | c :: cs =>
    if c = closing then
      match cs with
      | [] => some ([], [])
      | c' :: cs' =>
        if c' = closing then before c (quoted closing escapes cs') else some ([], c' :: cs')
    else if escapes && c == '\\' then
      match cs with
      | [] => none
      | c' :: cs' => before c' (quoted closing escapes cs')
    else before c (quoted closing escapes cs)

/-! Numbers -/

def sign (cs : List Char) : List Char × List Char :=
  match cs with
  | '-' :: r => (['-'], r)
  | '+' :: r => (['+'], r)
  | _ => ([], cs)

/-- The digits that follow a lead, together with it; without digits the lead is not read. -/
def digitsAfter (lead cs : List Char) : List Char × List Char :=
  let ds := cs.takeWhile Char.isDigit
  if ds.isEmpty then ([], lead ++ cs) else (lead ++ ds, cs.dropWhile Char.isDigit)

def fraction (cs : List Char) : List Char × List Char :=
  match cs with
  | '.' :: r => digitsAfter ['.'] r
  | _ => ([], cs)

def exponent (cs : List Char) : List Char × List Char :=
  match cs with
  | 'e' :: r => digitsAfter ('e' :: (sign r).1) (sign r).2
  | 'E' :: r => digitsAfter ('E' :: (sign r).1) (sign r).2
  | _ => ([], cs)

/-- Digits with a sign before them, and a fraction and an exponent after them, if there are any. -/
def number (cs : List Char) : Option (List Char × List Char) :=
  let whole := digitsAfter (sign cs).1 (sign cs).2
  let tail := fraction whole.2
  let last := exponent tail.2
  if whole.1.isEmpty then none else some (whole.1 ++ (tail.1 ++ last.1), last.2)

/-! Symbols -/

def symbol (cs : List Char) : Option (List Char × List Char) :=
  match cs with
  | '<' :: '=' :: r => some (['<', '='], r)
  | '<' :: '>' :: r => some (['<', '>'], r)
  | '>' :: '=' :: r => some (['>', '='], r)
  | c :: r => if c ∈ ['.', ',', '*', '(', ')', '=', '<', '>'] then some ([c], r) else none
  | [] => none

end Lexing

open Lexing

namespace Dialect

def tagged (kind : String → Lexeme) (x : Option (List Char × List Char)) :
    Option (Lexeme × List Char) := x.map fun p => (kind (String.ofList p.1), p.2)

/-- The first lexeme, and what follows it. -/
def lexeme (d : Dialect) : List Char → Option (Lexeme × List Char)
  | [] => none
  | c :: cs =>
    if c = (delimiters d).1 then tagged .name (quoted (delimiters d).2 false cs)
    else if c = '\'' then tagged .text (quoted '\'' (d == .mysql) cs)
    else if d == .tsql && c == 'N' && cs.head? == some '\'' then
      tagged .text (quoted '\'' false cs.tail)
    else if isWordStart c then
      tagged .word (some (c :: cs.takeWhile isWordPart, cs.dropWhile isWordPart))
    else if (number (c :: cs)).isSome then tagged .number (number (c :: cs))
    else tagged .symbol (symbol (c :: cs))

end Dialect

/-! What follows a lexeme is shorter -/

namespace Lexing

variable {cs s r : List Char}

theorem length_of_quoted {closing : Char} {escapes : Bool}
    (h : quoted closing escapes cs = some (s, r)) : r.length < cs.length := by
  fun_induction quoted closing escapes cs generalizing s r with
  | case1 => cases h
  | case2 => cases h; exact Nat.zero_lt_one
  | case3 cs' ih =>
    obtain ⟨s', hq, -⟩ := before_eq_some_iff.1 h
    have hl := ih hq
    simp only [List.length_cons]
    omega
  | case4 c' cs' hc => 
    cases h
    simp
  | case5 => cases h
  | case6 c hc he c' cs' ih =>
    obtain ⟨s', hq, -⟩ := before_eq_some_iff.1 h
    have hl := ih hq
    simp only [List.length_cons]
    omega
  | case7 c cs hc he ih =>
    obtain ⟨s', hq, -⟩ := before_eq_some_iff.1 h
    have hl := ih hq
    rw [List.length_cons]
    omega

theorem sign_append (cs : List Char) : (sign cs).1 ++ (sign cs).2 = cs := by
  unfold sign
  split <;> rfl

theorem digitsAfter_append (lead cs : List Char) :
    (digitsAfter lead cs).1 ++ (digitsAfter lead cs).2 = lead ++ cs := by
  unfold digitsAfter
  simp only
  split
  · rfl
  · rw [List.append_assoc, List.takeWhile_append_dropWhile]

theorem fraction_append (cs : List Char) : (fraction cs).1 ++ (fraction cs).2 = cs := by
  unfold fraction
  split
  · exact digitsAfter_append _ _
  · rfl

theorem exponent_append (cs : List Char) : (exponent cs).1 ++ (exponent cs).2 = cs := by
  unfold exponent
  split
  · rw [digitsAfter_append, List.cons_append, sign_append]
  · rw [digitsAfter_append, List.cons_append, sign_append]
  · rfl

theorem append_of_number (h : number cs = some (s, r)) : s ++ r = cs ∧ s ≠ [] := by
  unfold number at h
  simp only at h
  split at h
  · cases h
  · rename_i hw
    cases h
    refine ⟨?_, fun hs => hw ?_⟩
    · rw [List.append_assoc, List.append_assoc, exponent_append, fraction_append,
        digitsAfter_append, sign_append]
    · rw [(List.append_eq_nil_iff.1 hs).1]
      rfl

theorem append_of_symbol (h : symbol cs = some (s, r)) : s ++ r = cs ∧ s ≠ [] := by
  unfold symbol at h
  split at h
  · cases h; simp
  · cases h; simp
  · cases h; simp
  · split at h
    · cases h; simp
    · cases h
  · cases h

theorem length_lt_of_append (h : s ++ r = cs ∧ s ≠ []) : r.length < cs.length := by
  have hs := List.length_pos_iff.2 h.2
  rw [← h.1, List.length_append]
  omega

end Lexing

theorem Dialect.tagged_eq_some_iff {kind : String → Lexeme} {x : Option (List Char × List Char)}
    {l : Lexeme} {r : List Char} :
    tagged kind x = some (l, r) ↔ ∃ s, x = some (s, r) ∧ l = kind (String.ofList s) := by
  cases x with
  | none => simp [tagged]
  | some p =>
    obtain ⟨s, r'⟩ := p
    simp only [tagged, Option.map_some, Option.some.injEq, Prod.mk.injEq]
    constructor
    · rintro ⟨rfl, rfl⟩
      exact ⟨s, ⟨rfl, rfl⟩, rfl⟩
    · rintro ⟨s', ⟨rfl, rfl⟩, rfl⟩
      exact ⟨rfl, rfl⟩

theorem Dialect.length_of_lexeme {d : Dialect} {l : Lexeme} {cs r : List Char}
    (h : d.lexeme cs = some (l, r)) : r.length < cs.length := by
  cases cs with
  | nil => cases h
  | cons c cs =>
    rw [lexeme] at h
    split at h
    · obtain ⟨s, hq, -⟩ := tagged_eq_some_iff.1 h
      exact Nat.lt_succ_of_lt (length_of_quoted hq)
    · split at h
      · obtain ⟨s, hq, -⟩ := tagged_eq_some_iff.1 h
        exact Nat.lt_succ_of_lt (length_of_quoted hq)
      · split at h
        · obtain ⟨s, hq, -⟩ := tagged_eq_some_iff.1 h
          have hl := length_of_quoted hq
          rw [List.length_tail] at hl
          rw [List.length_cons]
          omega
        · split at h
          · cases h
            exact Nat.lt_succ_of_le (List.dropWhile_suffix _).length_le
          · split at h
            · obtain ⟨s, hn, -⟩ := tagged_eq_some_iff.1 h
              exact length_lt_of_append (append_of_number hn)
            · obtain ⟨s, hs, -⟩ := tagged_eq_some_iff.1 h
              exact length_lt_of_append (append_of_symbol hs)

/-- The lexemes of a text, unless it cannot be split. -/
def Dialect.lexemes (d : Dialect) : List Char → Option (List Lexeme)
  | [] => some []
  | c :: cs =>
    if isBlank c then d.lexemes cs
    else
      match h : d.lexeme (c :: cs) with
      | none => none
      | some (l, r) =>
        have : r.length < (c :: cs).length := Dialect.length_of_lexeme h
        (d.lexemes r).map (l :: ·)
termination_by cs => cs.length
decreasing_by
  · exact Nat.lt_succ_self cs.length
  · assumption

/-! Blanks and first lexemes -/

namespace Dialect

variable {d : Dialect} {c : Char} {cs r : List Char} {l : Lexeme}

theorem lexemes_nil : d.lexemes [] = some [] := by rw [lexemes]

theorem lexemes_blank (h : isBlank c = true) : d.lexemes (c :: cs) = d.lexemes cs := by
  rw [lexemes, if_pos h]

theorem lexeme_blank (h : isBlank c = true) : d.lexeme (c :: cs) = none := by
  simp only [isBlank, Bool.or_eq_true, beq_iff_eq] at h
  rcases h with ((rfl | rfl) | rfl) | rfl <;> cases d <;> rfl

theorem lexemes_of_lexeme (h : d.lexeme cs = some (l, r)) :
    d.lexemes cs = (d.lexemes r).map (l :: ·) := by
  cases cs with
  | nil => cases h
  | cons c cs =>
    have hb : ¬ isBlank c = true := by
      intro hb
      rw [lexeme_blank hb] at h
      cases h
    rw [lexemes, if_neg hb]
    split
    · rename_i hn
      rw [hn] at h
      cases h
    · rename_i l' r' hs
      rw [hs] at h
      cases h
      rfl

end Dialect

end EntityQuery.Sql
