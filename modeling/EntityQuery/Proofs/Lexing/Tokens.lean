import EntityQuery.Proofs.Lexing.Numbers
import Mathlib.Data.List.Chain

/-!
The tokens of a statement are its lexemes. Two tokens that stand side by side do not fuse if one of
them is a mark (a blank, a comma, a star or a parenthesis), or if a dot follows a name or comes
before anything. A stream of tokens in which that is so everywhere is split into just its tokens.
-/

namespace EntityQuery.Sql

open Lexing

namespace Token

/-! The lexemes of tokens -/

def keywords : Token → List String
  | .select => ["SELECT"]
  | .from => ["FROM"]
  | .where => ["WHERE"]
  | .and => ["AND"]
  | .as => ["AS"]
  | .on => ["ON"]
  | .join => ["JOIN"]
  | .inner => ["INNER"]
  | .orderBy => ["ORDER", "BY"]
  | .asc => ["ASC"]
  | .desc => ["DESC"]
  | .limit => ["LIMIT"]
  | .offset => ["OFFSET"]
  | .fetch => ["FETCH"]
  | .next => ["NEXT"]
  | .rows => ["ROWS"]
  | .only => ["ONLY"]
  | .inList => ["IN"]
  | .like => ["LIKE"]
  | .ilike => ["ILIKE"]
  | .isNull => ["IS", "NULL"]
  | .isNotNull => ["IS", "NOT", "NULL"]
  | .null => ["NULL"]
  | _ => []

/-- What a database should read for a token: a name is one lexeme, whatever it holds, and blanks are
none. -/
def lexemes (d : Dialect) : Token → List Lexeme
  | .comma => [.symbol ","]
  | .dot => [.symbol "."]
  | .star => [.symbol "*"]
  | .openParen => [.symbol "("]
  | .closeParen => [.symbol ")"]
  | .eq => [.symbol "="]
  | .ne => [.symbol "<>"]
  | .lt => [.symbol "<"]
  | .gt => [.symbol ">"]
  | .lte => [.symbol "<="]
  | .gte => [.symbol ">="]
  | .ident n => [.name n]
  | .qualified none n => [.name n]
  | .qualified (some s) n => [.name s, .symbol ".", .name n]
  | .int n => [.number (toString n.toInt)]
  | .count n => [.number (toString n.toNat)]
  | .float x => [.number (numberLayout.write x)]
  | .string s => [.text s]
  | .bool b =>
    match d with
    | .postgres | .duckdb => [.word (if b then "true" else "false")]
    | .mysql | .tsql => [.number (if b then "1" else "0")]
  | .function f => [.word (Text.upper f)]
  | t => t.keywords.map .word

/-! Neighbours -/

def isMark : Token → Bool
  | .space | .newline | .comma | .star | .openParen | .closeParen => true
  | .indent n => 0 < n
  | _ => false

theorem eq_of_isMark {t : Token} (h : t.isMark = true) :
    t = .space ∨ t = .newline ∨ t = .comma ∨ t = .star ∨ t = .openParen ∨ t = .closeParen ∨
      ∃ n, 0 < n ∧ t = .indent n := by
  unfold isMark at h
  split at h <;> simp_all

def isName : Token → Bool
  | .ident _ | .qualified _ _ => true
  | _ => false

/-- Two tokens that may stand side by side. -/
def Beside (t u : Token) : Prop :=
  t.isMark = true ∨ u.isMark = true ∨ t = .dot ∨ (t.isName = true ∧ u = .dot)

/-- Function names are not quoted, so they have to be words; and only finite numbers have a text. -/
def IsSound : Token → Prop
  | .function f => isWord (Text.upper f).toList = true
  | .float x => x.isFinite = true
  | _ => True

theorem failure?_of_isSound {t : Token} (h : t.IsSound) : t.failure? = none := by
  cases t with
  | float x => exact if_pos h
  | _ => rfl

end Token

namespace Dialect

variable {d : Dialect} {r : List Char}

/-! Marks and dots -/

theorem lexemes_replicate_blank (n : Nat) :
    d.lexemes (List.replicate n ' ' ++ r) = d.lexemes r := by
  induction n with
  | zero => rfl
  | succ n ih =>
    rw [List.replicate_succ, List.cons_append, lexemes_blank rfl, ih]

theorem lexeme_symbol {c : Char} {cs s : List Char}
    (hc : c ∈ ['.', ',', '*', '(', ')', '=', '<', '>']) (hs : symbol (c :: cs) = some (s, r)) :
    d.lexeme (c :: cs) = some (.symbol (String.ofList s), r) := by
  have hkind : c.isDigit = false ∧ c ≠ '-' ∧ c ≠ '+' ∧ c ≠ (delimiters d).1 ∧ c ≠ '\'' ∧
      c ≠ 'N' ∧ isWordStart c = false := by
    simp only [List.mem_cons, List.not_mem_nil, or_false] at hc
    rcases hc with rfl | rfl | rfl | rfl | rfl | rfl | rfl | rfl <;> cases d <;> decide
  obtain ⟨hdigit, hminus, hplus, hd, hq, hN, hw⟩ := hkind
  have hn : number (c :: cs) = none := by
    have hsign : sign (c :: cs) = ([], c :: cs) := by
      unfold sign
      split
      · rename_i he
        cases he
        exact absurd rfl hminus
      · rename_i he
        cases he
        exact absurd rfl hplus
      · rfl
    simp [number, hsign, digitsAfter, hdigit]
  rw [lexeme, if_neg hd, if_neg hq, beq_eq_false_iff_ne.2 hN, Bool.and_false, Bool.false_and,
    if_neg Bool.false_ne_true, if_neg (Bool.eq_false_iff.1 hw), hn, hs]
  rfl

theorem lexemes_symbol {c : Char} {cs s : List Char}
    (hc : c ∈ ['.', ',', '*', '(', ')', '=', '<', '>']) (hs : symbol (c :: cs) = some (s, r)) :
    d.lexemes (c :: cs) = (d.lexemes r).map ([.symbol (String.ofList s)] ++ ·) :=
  lexemes_of_lexeme (lexeme_symbol hc hs)

theorem lexemes_dot : d.lexemes ('.' :: r) = (d.lexemes r).map ([.symbol "."] ++ ·) :=
  lexemes_symbol (by decide) rfl

theorem lexemes_mark {t : Token} (h : t.isMark = true) :
    d.lexemes ((t.text d).toList ++ r) = (d.lexemes r).map (t.lexemes d ++ ·) := by
  have blank (x : Option (List Lexeme)) : x.map ([] ++ ·) = x := by cases x <;> rfl
  rcases Token.eq_of_isMark h with rfl | rfl | rfl | rfl | rfl | rfl | ⟨n, -, rfl⟩
  · rw [Token.text, show " ".toList = [' '] from rfl]
    exact (lexemes_blank rfl).trans (blank _).symm
  · rw [Token.text, show "\n".toList = ['\n'] from rfl]
    exact (lexemes_blank rfl).trans (blank _).symm
  · rw [Token.text, show ",".toList = [','] from rfl]
    exact lexemes_symbol (by decide) rfl
  · rw [Token.text, show "*".toList = ['*'] from rfl]
    exact lexemes_symbol (by decide) rfl
  · rw [Token.text, show "(".toList = ['('] from rfl]
    exact lexemes_symbol (by decide) rfl
  · rw [Token.text, show ")".toList = [')'] from rfl]
    exact lexemes_symbol (by decide) rfl
  · rw [Token.text, String.toList_ofList, lexemes_replicate_blank]
    exact (blank _).symm

/-! Other tokens -/

theorem ne_closing_of_isStop {c : Char} (h : isStop c = true) : c ≠ (delimiters d).2 := by
  rcases eq_of_isStop h with rfl | rfl | rfl | rfl | rfl | rfl <;> cases d <;> decide

theorem dot_ne_closing : '.' ≠ (delimiters d).2 := by cases d <;> decide

theorem lexemes_name {t : Token} (h : t.isName = true)
    (hr : ∀ c ∈ r.head?, c ≠ (delimiters d).2) :
    d.lexemes ((t.text d).toList ++ r) = (d.lexemes r).map (t.lexemes d ++ ·) := by
  cases t with
  | ident n => exact lexemes_of_lexeme (lexeme_quoteName n hr)
  | qualified s n =>
    cases s with
    | none => exact lexemes_of_lexeme (lexeme_quoteName n hr)
    | some s =>
      have hdot : ∀ c ∈ ('.' :: ((d.quoteName n).toList ++ r)).head?, c ≠ (delimiters d).2 := by
        rintro c ⟨⟩
        exact dot_ne_closing
      have ht : (Token.text d (.qualified (some s) n)).toList ++ r =
          (d.quoteName s).toList ++ '.' :: ((d.quoteName n).toList ++ r) := by
        rw [Token.text, String.toList_append, String.toList_append, List.append_assoc,
          List.append_assoc, show ".".toList = ['.'] from rfl, List.singleton_append]
      rw [ht, lexemes_of_lexeme (lexeme_quoteName s hdot), lexemes_dot,
        lexemes_of_lexeme (lexeme_quoteName n hr), Option.map_map, Option.map_map]
      rfl
  | _ => cases h

theorem lexemes_word {w : String} (hw : isWord w.toList = true) (hr : Stops r) :
    d.lexemes (w.toList ++ r) = (d.lexemes r).map ([.word w] ++ ·) := by
  have h := lexemes_of_lexeme (d := d) (lexeme_word hw hr)
  rwa [String.ofList_toList] at h

theorem lexemes_number {s : String} (h : IsNumber s.toList) (hr : Stops r) :
    d.lexemes (s.toList ++ r) = (d.lexemes r).map ([.number s] ++ ·) := by
  have h := lexemes_of_lexeme (d := d) (lexeme_number h hr)
  rwa [String.ofList_toList] at h

theorem lexemes_words {ws : List String} (hne : ws ≠ [])
    (h : ∀ w ∈ ws, isWord w.toList = true) (hr : Stops r) :
    d.lexemes (List.intercalate [' '] (ws.map String.toList) ++ r) =
      (d.lexemes r).map (ws.map .word ++ ·) := by
  induction ws with
  | nil => exact absurd rfl hne
  | cons w ws ih =>
    obtain ⟨hw, hws⟩ := List.forall_mem_cons.1 h
    cases ws with
    | nil => simpa using lexemes_word (d := d) hw hr
    | cons w' ws =>
      have hspace :
          Stops (' ' :: (List.intercalate [' '] ((w' :: ws).map String.toList) ++ r)) := by
        rintro c ⟨⟩
        rfl
      rw [List.map_cons, List.map_cons, List.intercalate_cons_cons, List.append_assoc,
        List.append_assoc, List.singleton_append, ← List.map_cons, lexemes_word hw hspace,
        lexemes_blank rfl, ih (by simp) hws, Option.map_map]
      rfl

theorem lexemes_keyword {t : Token} (h : t.keywords ≠ []) (hr : Stops r) :
    d.lexemes ((t.text d).toList ++ r) = (d.lexemes r).map (t.lexemes d ++ ·) := by
  have hwords : ∀ w ∈ t.keywords, isWord w.toList = true := by
    cases t <;> simp only [Token.keywords] <;> decide
  have htext : (t.text d).toList = List.intercalate [' '] (t.keywords.map String.toList) := by
    cases t <;> simp only [Token.keywords, ne_eq, not_true_eq_false] at h <;> rw [Token.text] <;>
      rfl
  have hlexemes : t.lexemes d = t.keywords.map .word := by
    cases t <;> simp only [Token.keywords, ne_eq, not_true_eq_false] at h <;> rfl
  rw [htext, hlexemes, lexemes_words h hwords hr]

/-- The symbols that are the start of a longer one. -/
theorem symbol_append_stop {c : Char} (hc : c = '<' ∨ c = '>') (hr : Stops r) :
    symbol (c :: r) = some ([c], r) := by
  cases r with
  | nil => rcases hc with rfl | rfl <;> rfl
  | cons x r =>
    rcases eq_of_isStop (hr x rfl) with rfl | rfl | rfl | rfl | rfl | rfl <;>
      rcases hc with rfl | rfl <;> rfl

/-- Before a stop every token is read as it is meant. -/
theorem lexemes_token {t : Token} (ht : t.IsSound) (hr : Stops r) :
    d.lexemes ((t.text d).toList ++ r) = (d.lexemes r).map (t.lexemes d ++ ·) := by
  have hname : ∀ c ∈ r.head?, c ≠ (delimiters d).2 := fun c hc => ne_closing_of_isStop (hr c hc)
  cases t with
  | space => exact lexemes_mark rfl
  | newline => exact lexemes_mark rfl
  | comma => exact lexemes_mark rfl
  | star => exact lexemes_mark rfl
  | openParen => exact lexemes_mark rfl
  | closeParen => exact lexemes_mark rfl
  | dot =>
    rw [Token.text, show ".".toList = ['.'] from rfl]
    exact lexemes_dot
  | indent n =>
    rw [Token.text, String.toList_ofList, lexemes_replicate_blank]
    cases d.lexemes r <;> rfl
  | ident n => exact lexemes_name rfl hname
  | qualified s n => exact lexemes_name rfl hname
  | eq =>
    rw [Token.text, show "=".toList = ['='] from rfl]
    exact lexemes_symbol (by decide) rfl
  | ne =>
    rw [Token.text, show "<>".toList = ['<', '>'] from rfl]
    exact lexemes_symbol (by decide) rfl
  | lt =>
    rw [Token.text, show "<".toList = ['<'] from rfl]
    exact lexemes_symbol (by decide) (symbol_append_stop (.inl rfl) hr)
  | gt =>
    rw [Token.text, show ">".toList = ['>'] from rfl]
    exact lexemes_symbol (by decide) (symbol_append_stop (.inr rfl) hr)
  | lte =>
    rw [Token.text, show "<=".toList = ['<', '='] from rfl]
    exact lexemes_symbol (by decide) rfl
  | gte =>
    rw [Token.text, show ">=".toList = ['>', '='] from rfl]
    exact lexemes_symbol (by decide) rfl
  | int n => exact lexemes_number (isNumber_int n.toInt) hr
  | count n => exact lexemes_number (isNumber_nat n.toNat) hr
  | float x => exact lexemes_number (isNumber_write numberLayout x) hr
  | string s =>
    have hq : ∀ c ∈ r.head?, c ≠ '\'' := by
      rintro c hc rfl
      cases hr _ hc
    exact lexemes_of_lexeme (lexeme_quoteString s hq)
  | bool b =>
    cases d <;> cases b
    · exact lexemes_word (w := "false") rfl hr
    · exact lexemes_word (w := "true") rfl hr
    · exact lexemes_word (w := "false") rfl hr
    · exact lexemes_word (w := "true") rfl hr
    · exact lexemes_number (isNumber_nat 0) hr
    · exact lexemes_number (isNumber_nat 1) hr
    · exact lexemes_number (isNumber_nat 0) hr
    · exact lexemes_number (isNumber_nat 1) hr
  | function f => exact lexemes_word ht hr
  | _ => exact lexemes_keyword (by simp [Token.keywords]) hr

/-! Streams of tokens -/

theorem stops_mark {t : Token} (h : t.isMark = true) (r : List Char) :
    Stops ((t.text d).toList ++ r) := by
  have first {c : Char} (hc : isStop c = true) (r : List Char) : Stops (c :: r) := by
    rintro x ⟨⟩
    exact hc
  rcases Token.eq_of_isMark h with rfl | rfl | rfl | rfl | rfl | rfl | ⟨n, hn, rfl⟩
  · rw [Token.text, show " ".toList = [' '] from rfl]
    exact first rfl r
  · rw [Token.text, show "\n".toList = ['\n'] from rfl]
    exact first rfl r
  · rw [Token.text, show ",".toList = [','] from rfl]
    exact first rfl r
  · rw [Token.text, show "*".toList = ['*'] from rfl]
    exact first rfl r
  · rw [Token.text, show "(".toList = ['('] from rfl]
    exact first rfl r
  · rw [Token.text, show ")".toList = [')'] from rfl]
    exact first rfl r
  · obtain ⟨k, hk⟩ : ∃ k, 2 * n = k + 1 := ⟨2 * n - 1, by omega⟩
    rw [Token.text, String.toList_ofList, hk, List.replicate_succ]
    exact first rfl _

/-- A stream in which no two neighbours fuse is split into just its tokens. -/
theorem lexemes_stream {ts : List Token} (hs : ∀ t ∈ ts, t.IsSound)
    (hc : ts.IsChain Token.Beside) :
    d.lexemes (ts.flatMap fun t => (t.text d).toList) = some (ts.flatMap (Token.lexemes d)) := by
  induction ts with
  | nil => exact lexemes_nil
  | cons t ts ih =>
    obtain ⟨ht, hts⟩ := List.forall_mem_cons.1 hs
    obtain ⟨hbeside, hchain⟩ := List.isChain_cons.1 hc
    have hfirst : d.lexemes ((t.text d).toList ++ ts.flatMap fun t => (t.text d).toList) =
        (d.lexemes (ts.flatMap fun t => (t.text d).toList)).map (t.lexemes d ++ ·) := by
      cases ts with
      | nil => exact lexemes_token ht stops_nil
      | cons u ts =>
        rw [List.flatMap_cons]
        rcases hbeside u rfl with h | h | rfl | ⟨h, rfl⟩
        · exact lexemes_mark h
        · exact lexemes_token ht (stops_mark h _)
        · rw [Token.text, show ".".toList = ['.'] from rfl]
          exact lexemes_dot
        · rw [show (Token.text d .dot).toList = ['.'] by rw [Token.text]; rfl]
          refine lexemes_name h ?_
          rintro c ⟨⟩
          exact dot_ne_closing
    rw [List.flatMap_cons, List.flatMap_cons, hfirst, ih hts hchain]
    rfl

end Dialect

end EntityQuery.Sql
