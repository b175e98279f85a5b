import EntityQuery.Sql.Query
import EntityQuery.Sql.Token

/-!
Expressions and queries as tokens. A dialect without `ILIKE` compares both sides in lower case, and
membership in an empty list, which SQL cannot write, is the predicate that no row meets. The clauses
of a query stand in a fixed order, each on a line of its own, and a clause with nothing to say is
left out.
-/

namespace EntityQuery.Sql

def Literal.token : Literal → Token
  | .int n => .int n
  | .float x => .float x
  | .string s => .string s
  | .bool b => .bool b
  | .null => .null

def Comparison.token : Comparison → Token
  | .eq => .eq
  | .ne => .ne
  | .lt => .lt
  | .gt => .gt
  | .lte => .lte
  | .gte => .gte
  | .like => .like
  | .ilike => .ilike

/-! Expressions -/

namespace Expr

/-- The tokens of `never`. -/
def neverTokens : List Token := [.int 1, .space, .eq, .space, .int 0]

/-- The table that a column or a star is taken from. -/
def qualifier : Option String → List Token
  | some t => [.ident t, .dot]
  | none => []

def callTokens (function : String) (args : List (List Token)) : List Token :=
  .function function :: .openParen :: (List.intercalate [.comma, .space] args ++ [.closeParen])

def lowered (ts : List Token) : List Token := callTokens "LOWER" [ts]

def compareTokens (d : Dialect) (op : Comparison) (left right : List Token) : List Token :=
  if op = .ilike ∧ d.supportsIlike = false then
    lowered left ++ [.space, .like, .space] ++ lowered right
  else
    left ++ [.space, op.token, .space] ++ right

def inListTokens (e : List Token) (values : List (List Token)) : List Token :=
  if values.isEmpty then neverTokens
  else e ++ [.space, .inList, .space, .openParen] ++ List.intercalate [.comma, .space] values
    ++ [.closeParen]

mutual

def tokens (d : Dialect) : Expr → List Token
  | .column t c => qualifier t ++ [.ident c]
  | .literal l => [l.token]
  | .compare op l r => compareTokens d op (l.tokens d) (r.tokens d)
  | .call f args => callTokens f (tokensOfList d args)
  | .inList e vs => inListTokens (e.tokens d) (tokensOfList d vs)
  | .isNull e negated => e.tokens d ++ [.space, if negated then .isNotNull else .isNull]
  | .star t => qualifier t ++ [.star]

def tokensOfList (d : Dialect) : List Expr → List (List Token)
  | [] => []
  | e :: es => e.tokens d :: tokensOfList d es

end

theorem tokensOfList_eq_map (d : Dialect) (es : List Expr) :
    tokensOfList d es = es.map (tokens d) := by
  induction es with
  | nil => rfl
  | cons e es ih => simp [tokensOfList, ih]

theorem tokens_never (d : Dialect) : never.tokens d = neverTokens := by
  simp [never, tokens, compareTokens, neverTokens, Literal.token, Comparison.token]

/-- The text of an expression by itself. -/
def toSql (d : Dialect) (e : Expr) : Except RenderError String := render d (e.tokens d)

end Expr

/-! Parts of queries -/

def Table.tokens (t : Table) : List Token :=
  .qualified t.schema t.name ::
    match t.asName with
    | some a => [.space, .as, .space, .ident a]
    | none => []

def Join.tokens (d : Dialect) (j : Join) : List Token :=
  [.inner, .space, .join, .space] ++ j.table.tokens ++ [.space, .on, .space] ++ j.condition.tokens d

def directionToken : Direction → Token
  | .asc => .asc
  | .desc => .desc

def OrderTerm.tokens (d : Dialect) (t : OrderTerm) : List Token :=
  t.expr.tokens d ++ [.space, directionToken t.direction]

namespace Page

/-- `LIMIT n OFFSET m`, either part alone, or nothing. -/
def limitTokens (p : Page) : List Token :=
  let limit := p.limit.toList.map fun n => [.limit, .space, .count n]
  let offset := p.offset.toList.map fun n => [.offset, .space, .count n]
  List.intercalate [.space] (limit ++ offset)

/-- `OFFSET m ROWS FETCH NEXT n ROWS ONLY`; the first part stands even for a page that skips
nothing. -/
def fetchTokens (p : Page) : List Token :=
  [.offset, .space, .count (p.offset.getD 0), .space, .rows] ++
    match p.limit with
    | some n =>
      [.space, .fetch, .space, .next, .space, .count n, .space, .rows, .space, .only]
    | none => []

def tokens (d : Dialect) (p : Page) : List Token :=
  match d with
  | .tsql => p.fetchTokens
  | _ => p.limitTokens

end Page

/-! Queries -/

namespace Query

/-- Lists of tokens after an opening, with a separator between any two; nothing for no list. -/
def clause (opening separator : List Token) (parts : List (List Token)) : List Token :=
  if parts.isEmpty then [] else opening ++ List.intercalate separator parts

/-- Without expressions, every column. -/
def selectTokens (d : Dialect) (q : Query) : List Token :=
  .select ::
    if q.select.isEmpty then [.space, .star]
    else clause [.newline, .indent 1] [.comma, .newline, .indent 1] (q.select.map (Expr.tokens d))

def sourceTokens (q : Query) : List Token :=
  match q.source with
  | some t => [.newline, .from, .space] ++ t.tokens
  | none => []

def joinTokens (d : Dialect) (q : Query) : List Token :=
  q.joins.flatMap fun j => .newline :: j.tokens d

def whereTokens (d : Dialect) (q : Query) : List Token :=
  clause [.newline, .where, .space] [.newline, .indent 1, .and, .space]
    (q.predicates.map (Expr.tokens d))

/-- An order that says nothing, for a page of a query without one. -/
def anyOrderTokens : List Token :=
  [.newline, .orderBy, .space, .openParen, .select, .space, .null, .closeParen]

def orderTokens (d : Dialect) (q : Query) : List Token :=
  if q.order.isEmpty && d.pagesNeedOrder && q.page.isSome then anyOrderTokens
  else clause [.newline, .orderBy, .space] [.comma, .space] (q.order.map (OrderTerm.tokens d))

def pageTokens (d : Dialect) (q : Query) : List Token :=
  match q.page with
  | some p => .newline :: p.tokens d
  | none => []

def tokens (d : Dialect) (q : Query) : List Token :=
  q.selectTokens d ++ q.sourceTokens ++ q.joinTokens d ++ q.whereTokens d ++ q.orderTokens d
    ++ q.pageTokens d

def toSql (d : Dialect) (q : Query) : Except RenderError String := render d (q.tokens d)

end Query

end EntityQuery.Sql
