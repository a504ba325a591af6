import Schematic.Reference.Token

/-!
The grammar of references.  A reference is an expression, or several of them separated by
commas.  Operators bind at levels, from `or` up to powers, and an operator whose operands are
of level `n` is read where an expression of level `n` or less is asked for.
-/

namespace Schematic
namespace Reference

inductive Expr where
  | name (s : String)
  | constant (v : Value)
  | ellipsis
  | tuple (items : List Expr)
  | list (items : List Expr)
  | set (items : List Expr)
  | dict (entries : List (Expr × Expr))
  /-- The elements of an expression in the place of an element. -/
  | spread (e : Expr)
  | member (e : Expr) (name : String)
  | subscript (e index : Expr)
  | call (e : Expr) (arguments : List Expr)
  | unary (op : String) (e : Expr)
  | binary (op : String) (a b : Expr)
  | choice (test yes no : Expr)
  /-- An expression of which only the class of its value is known. -/
  | object (className : String)
  deriving Inhabited

/-- What is read at the front of a list of tokens, and what follows it. -/
abbrev Front (α : Type) := α × List Token

def Expr.isTarget : Expr → Bool
  | .name _ | .member _ _ | .subscript _ _ => true
  | .tuple items | .list items => targets items
  | .spread e => isTarget e
  | _ => false
where
  targets : List Expr → Bool
    | [] => true
    | e :: rest => isTarget e && targets rest

def Expr.isSpread : Expr → Bool
  | .spread _ => true
  | _ => false

def closes (closing : String) : List Token → Bool
  | .mark s :: _ => s == closing
  | _ => false

/-- An expression that is given a name stands at the front. -/
def isNamed : List Token → Bool
  | .name _ :: .mark ":=" :: _ => true
  | _ => false

/-- An operator between two operands at the front of a list of tokens: its name, its level, and
what follows it. -/
def takeOperator? : List Token → Option (String × Nat × List Token)
  | .name "or" :: rest => some ("or", 0, rest)
  | .name "and" :: rest => some ("and", 1, rest)
  | .name "not" :: .name "in" :: rest => some ("not in", 3, rest)
  | .name "in" :: rest => some ("in", 3, rest)
  | .name "is" :: .name "not" :: rest => some ("is not", 3, rest)
  | .name "is" :: rest => some ("is", 3, rest)
  | .mark s :: rest =>
    let level? : Option Nat :=
      match s with
      | "<" | ">" | "<=" | ">=" | "==" | "!=" => some 3
      | "|" => some 4
      | "^" => some 5
      | "&" => some 6
      | "<<" | ">>" => some 7
      | "+" | "-" => some 8
      | "*" | "/" | "//" | "%" | "@" => some 9
      | "**" => some 11
      | _ => none
    level?.map fun level => (s, level, rest)
  | _ => none

/-- The level of comparisons, which form chains. -/
def comparisonLevel : Nat := 3

/-- The level of what a sign stands before. -/
def signLevel : Nat := 10

/-- Quoted texts one after the other are one text. -/
def joinTexts (s : String) : List Token → Option (Front Expr)
  | .text t :: rest => joinTexts (s ++ t) rest
  | .template :: rest => skipTexts rest
  | .bytes _ :: _ => none
  | rest => some (.constant (.str s), rest)
where
  skipTexts : List Token → Option (Front Expr)
    | .text _ :: rest | .template :: rest => skipTexts rest
    | .bytes _ :: _ => none
    | rest => some (.object "str", rest)

def joinBytes (b : List UInt8) : List Token → Option (Front Expr)
  | .bytes c :: rest => joinBytes (b ++ c) rest
  | .text _ :: _ | .template :: _ => none
  | rest => some (.constant (.bytes b), rest)

/-- A list of elements as it stands between parentheses: a single one without a comma is itself. -/
def grouped (items : List Expr) (hasComma : Bool) : Option Expr :=
  match items, hasComma with
  | [.spread _], false => none
  | [e], false => some e
  | items, _ => some (.tuple items)

/-- What is known of the parameters of a function that are read. -/
structure Parameters where
  names : List String := []
  optional : Bool := false
  /-- The slash after those that are given by place. -/
  hasSlash : Bool := false
  /-- The star before those that are given by name. -/
  hasStar : Bool := false

/-- A further parameter; one that has to be given cannot follow one that can be left out. -/
def Parameters.name? (p : Parameters) (s : String) (canMiss : Bool) : Option Parameters :=
  if keywords.contains s || p.names.contains s then none
  else if p.optional && !canMiss && !p.hasStar then none
  else some { p with names := s :: p.names }

def Parameters.slash? (p : Parameters) : Option Parameters :=
  if p.names.isEmpty || p.hasSlash || p.hasStar then none else some { p with hasSlash := true }

def Parameters.star? (p : Parameters) : Option Parameters :=
  if p.hasStar then none else some { p with hasStar := true }

mutual

/-- An expression: one of the operators, perhaps under a condition, or a function. -/
def expression : Nat → List Token → Option (Front Expr)
  | 0, _ => none
  | n + 1, .name "lambda" :: rest => parameters n {} rest
  | n + 1, tokens => do
    let (yes, rest) ← operation n 0 tokens
    match rest with
    | .name "if" :: rest =>
      let (test, rest) ← operation n 0 rest
      match rest with
      | .name "else" :: rest =>
        let (no, rest) ← expression n rest
        return (.choice test yes no, rest)
      | _ => none
    | rest => return (yes, rest)

/-- The parameters of a function after those read, and its body. -/
def parameters : Nat → Parameters → List Token → Option (Front Expr)
  | 0, _, _ => none
  | n + 1, _, .mark ":" :: rest => do
    let (_, rest) ← expression n rest
    return (.object "function", rest)
  | n + 1, read, .mark "*" :: .mark "," :: .name s :: rest => do
    let read ← read.star?
    parameters n read (.name s :: rest)
  | n + 1, read, .mark "/" :: rest => do
    let read ← read.slash?
    nextParameter n read rest
  | n + 1, read, .mark "*" :: .name s :: rest => do
    let read ← read.star?
    let read ← read.name? s true
    nextParameter n read rest
  | n + 1, read, .mark "**" :: .name s :: rest => do
    let read ← read.name? s true
    match rest with
    | .mark "," :: .mark ":" :: rest | .mark ":" :: rest => parameters n read (.mark ":" :: rest)
    | _ => none
  | n + 1, read, .name s :: .mark "=" :: rest => do
    let read ← read.name? s true
    let (_, rest) ← expression n rest
    nextParameter n { read with optional := true } rest
  | n + 1, read, .name s :: rest => do
    let read ← read.name? s false
    nextParameter n read rest
  | _, _, _ => none

def nextParameter : Nat → Parameters → List Token → Option (Front Expr)
  | n + 1, read, .mark "," :: rest => parameters n read rest
  | n + 1, read, .mark ":" :: rest => parameters n read (.mark ":" :: rest)
  | _, _, _ => none

/-- An expression of a level or a higher one. -/
def operation : Nat → Nat → List Token → Option (Front Expr)
  | 0, _, _ => none
  | n + 1, level, tokens => do
    let (left, rest) ← operand n level tokens
    operators n level left rest

/-- An expression that starts with an operator before its operand, or with a primary. -/
def operand : Nat → Nat → List Token → Option (Front Expr)
  | 0, _, _ => none
  | n + 1, level, .name "not" :: rest => do
    if level > 2 then none
    else
      let (e, rest) ← operation n 2 rest
      return (.unary "not" e, rest)
  | n + 1, _, .mark s :: rest => do
    if s = "-" ∨ s = "+" ∨ s = "~" then
      let (e, rest) ← operation n signLevel rest
      return (.unary s e, rest)
    else primary n (.mark s :: rest)
  | n + 1, _, tokens => primary n tokens

/-- The operators after an expression that are of a level or a higher one. -/
def operators : Nat → Nat → Expr → List Token → Option (Front Expr)
  | 0, _, _, _ => none
  | n + 1, level, left, tokens =>
    match takeOperator? tokens with
    | none => some (left, tokens)
    | some (op, opLevel, rest) =>
      if opLevel < level then some (left, tokens)
      else if op = "**" then do
        let (right, rest) ← operation n signLevel rest
        operators n level (.binary op left right) rest
      else if opLevel = comparisonLevel then do
        let (right, rest) ← operation n (comparisonLevel + 1) rest
        comparisons n level (.binary op left right) right rest
      else do
        let (right, rest) ← operation n (opLevel + 1) rest
        operators n level (.binary op left right) rest

/-- The comparisons that go on a chain, after what holds so far and the last operand. -/
def comparisons : Nat → Nat → Expr → Expr → List Token → Option (Front Expr)
  | 0, _, _, _, _ => none
  | n + 1, level, holds, last, tokens =>
    match takeOperator? tokens with
    | none => some (holds, tokens)
    | some (op, opLevel, rest) =>
      if opLevel = comparisonLevel then do
        let (right, rest) ← operation n (comparisonLevel + 1) rest
        comparisons n level (.binary "and" holds (.binary op last right)) right rest
      else operators n level holds tokens

/-- An atom with what is applied to it. -/
def primary : Nat → List Token → Option (Front Expr)
  | 0, _ => none
  | n + 1, tokens => do
    let (e, rest) ← atom n tokens
    trailers n e rest

/-- The attributes, subscripts and calls after an expression. -/
def trailers : Nat → Expr → List Token → Option (Front Expr)
  | 0, _, _ => none
  | n + 1, e, .mark "." :: .name s :: rest =>
    if keywords.contains s then none else trailers n (.member e s) rest
  | _ + 1, _, .mark "." :: _ => none
  | n + 1, e, .mark "[" :: rest => do
    let (items, hasComma, rest) ← elements n "]" true rest
    if items.isEmpty then none
    else
      let index := match items, hasComma with
        | [.spread e], false => .tuple [.spread e]
        | [e], false => e
        | items, _ => .tuple items
      trailers n (.subscript e index) rest
  | n + 1, e, .mark "(" :: rest => do
    let (given, rest) ← arguments n true [] false rest
    trailers n (.call e given) rest
  | _ + 1, e, rest => some (e, rest)

/-- The arguments of a call up to the closing parenthesis; `names` are given already, and from
`all` on they are given together. -/
def arguments : Nat → Bool → List String → Bool → List Token → Option (Front (List Expr))
  | 0, _, _, _, _ => none
  | _ + 1, _, _, _, .mark ")" :: rest => some ([], rest)
  | n + 1, _, names, all, .mark "*" :: rest => do
    if all then none
    else
      let (e, rest) ← expression n rest
      let (more, rest) ← nextArgument n names all rest
      return (.spread e :: more, rest)
  | n + 1, _, names, _, .mark "**" :: rest => do
    let (_, rest) ← expression n rest
    let (more, rest) ← nextArgument n names true rest
    return (.object "keyword" :: more, rest)
  | n + 1, _, names, all, .name s :: .mark "=" :: rest => do
    if keywords.contains s || names.contains s then none
    else
      let (_, rest) ← expression n rest
      let (more, rest) ← nextArgument n (s :: names) all rest
      return (.object "keyword" :: more, rest)
  | n + 1, isFirst, names, all, tokens => do
    if all || !names.isEmpty then none
    else
      let (e, rest) ← element n false tokens
      match rest with
      -- A comprehension without parentheses of its own is the only argument.
      | .name "for" :: _ =>
        match isFirst, ← clauses n rest with
        | true, .mark ")" :: rest => return ([.object "generator"], rest)
        | _, _ => none
      | rest =>
        let (more, rest) ← nextArgument n names all rest
        return (e :: more, rest)

def nextArgument : Nat → List String → Bool → List Token → Option (Front (List Expr))
  | n + 1, names, all, .mark "," :: rest => arguments n false names all rest
  | _ + 1, _, _, .mark ")" :: rest => some ([], rest)
  | _, _, _, _ => none

/-- An element of a container: an expression, perhaps with a name given to it, the elements of
another one, or, in a subscript, a slice. -/
def element : Nat → Bool → List Token → Option (Front Expr)
  | 0, _, _ => none
  | n + 1, _, .mark "*" :: rest => do
    let (e, rest) ← operation n 4 rest
    return (.spread e, rest)
  | n + 1, slices, .mark ":" :: rest => if slices then slice n 1 rest else none
  | n + 1, slices, .name s :: .mark ":=" :: rest => do
    if keywords.contains s then none
    else
      let (e, rest) ← expression n rest
      match rest, slices with
      | .mark ":" :: _, true => none
      | rest, _ => return (e, rest)
  | n + 1, slices, tokens => do
    let (e, rest) ← expression n tokens
    match rest, slices with
    | .mark ":" :: rest, true => slice n 1 rest
    | rest, _ => return (e, rest)

/-- The rest of a slice after a colon; `left` more colons may follow. -/
def slice : Nat → Nat → List Token → Option (Front Expr)
  | 0, _, _ => none
  | n + 1, left, tokens =>
    match tokens with
    | .mark "]" :: _ | .mark "," :: _ => some (.object "slice", tokens)
    | .mark ":" :: rest => if left = 0 then none else slice n (left - 1) rest
    | tokens => do
      let (_, rest) ← expression n tokens
      match rest with
      | .mark ":" :: rest => if left = 0 then none else slice n (left - 1) rest
      | rest => return (.object "slice", rest)

/-- Elements up to a closing bracket, and whether a comma was among them. -/
def elements : Nat → String → Bool → List Token → Option (List Expr × Bool × List Token)
  | 0, _, _, _ => none
  | n + 1, closing, slices, tokens => do
    if closes closing tokens then return ([], false, tokens.drop 1)
    else
      let (e, rest) ← element n slices tokens
      afterElement n closing slices e rest

def afterElement : Nat → String → Bool → Expr → List Token →
    Option (List Expr × Bool × List Token)
  | 0, _, _, _, _ => none
  | n + 1, closing, slices, e, .mark "," :: rest => do
    let (more, _, rest) ← elements n closing slices rest
    return (e :: more, true, rest)
  | _ + 1, closing, _, e, tokens =>
    if closes closing tokens then some ([e], false, tokens.drop 1) else none

def clauses : Nat → List Token → Option (List Token)
  | 0, _ => none
  | n + 1, .name "for" :: rest => do
    let rest ← targets n rest
    let (_, rest) ← operation n 0 rest
    clauses n rest
  | n + 1, .name "if" :: rest => do
    let (_, rest) ← operation n 0 rest
    clauses n rest
  | _ + 1, rest => some rest

/-- The targets of a clause, up to the `in`. -/
def targets : Nat → List Token → Option (List Token)
  | 0, _ => none
  | n + 1, tokens => do
    let (e, rest) ←
      match tokens with
      | .mark "*" :: rest => operation n 4 rest
      | tokens => operation n 4 tokens
    if !e.isTarget then none
    else
      match rest with
      | .name "in" :: rest => some rest
      | .mark "," :: .name "in" :: rest => some rest
      | .mark "," :: rest => targets n rest
      | _ => none

/-- An atom: a name, a constant, or what stands between brackets. -/
def atom : Nat → List Token → Option (Front Expr)
  | 0, _ => none
  | n + 1, tokens =>
    match tokens with
    | .name "True" :: rest => some (.constant (.bool true), rest)
    | .name "False" :: rest => some (.constant (.bool false), rest)
    | .name "None" :: rest => some (.constant .null, rest)
    | .name s :: rest => if keywords.contains s then none else some (.name s, rest)
    | .number v :: rest => some (.constant v, rest)
    | .text s :: rest => joinTexts s rest
    | .template :: rest => joinTexts.skipTexts rest
    | .bytes b :: rest => joinBytes b rest
    | .mark "..." :: rest => some (.ellipsis, rest)
    | .mark "(" :: rest => do
      match ← between n ")" rest with
      | (.inl _, rest) => return (.object "generator", rest)
      | (.inr (items, hasComma), rest) =>
        let e ← grouped items hasComma
        return (e, rest)
    | .mark "[" :: rest => do
      match ← between n "]" rest with
      | (.inl _, rest) => return (.object "list", rest)
      | (.inr (items, _), rest) => return (.list items, rest)
    | .mark "\x7b" :: rest => braces n rest
    | _ => none

/-- What stands between parentheses or square brackets: a comprehension, or elements. -/
def between : Nat → String → List Token →
    Option (Front (Expr ⊕ (List Expr × Bool)))
  | 0, _, _ => none
  | n + 1, closing, tokens => do
    if closes closing tokens then return (.inr ([], true), tokens.drop 1)
    else
      let (e, rest) ← element n false tokens
      match rest with
      | .name "for" :: _ =>
        let rest ← clauses n rest
        if e.isSpread || !closes closing rest then none
        else return (.inl e, rest.drop 1)
      | rest =>
        let (items, hasComma, rest) ← afterElement n closing false e rest
        return (.inr (items, hasComma), rest)

/-- What stands between braces: the entries of a dictionary, or the elements of a set. -/
def braces : Nat → List Token → Option (Front Expr)
  | 0, _ => none
  | n + 1, tokens =>
    match tokens with
    | .mark "\x7d" :: rest => some (.dict [], rest)
    | .mark "**" :: _ => entries n [] tokens
    | tokens => do
      let (e, rest) ← element n false tokens
      match rest with
      | .mark ":" :: rest => if e.isSpread || isNamed tokens then none else entryValue n [] e rest
      | .name "for" :: _ =>
        match e.isSpread, ← clauses n rest with
        | false, .mark "\x7d" :: rest => return (.object "set", rest)
        | _, _ => none
      | rest =>
        let (items, _, rest) ← afterElement n "\x7d" false e rest
        return (.set items, rest)

def entries : Nat → List (Expr × Expr) → List Token → Option (Front Expr)
  | 0, _, _ => none
  | n + 1, found, tokens =>
    match tokens with
    | .mark "\x7d" :: rest => some (.dict found, rest)
    | .mark "**" :: rest => do
      let (e, rest) ← operation n 4 rest
      nextEntry n (found ++ [(.spread e, .spread e)]) rest
    | tokens => do
      let (key, rest) ← expression n tokens
      match rest with
      | .mark ":" :: rest => entryValue n found key rest
      | _ => none

def entryValue : Nat → List (Expr × Expr) → Expr → List Token → Option (Front Expr)
  | 0, _, _, _ => none
  | n + 1, found, key, tokens => do
    let (value, rest) ← expression n tokens
    match rest with
    | .name "for" :: _ =>
      match found, ← clauses n rest with
      | [], .mark "\x7d" :: rest => return (.object "dict", rest)
      | _, _ => none
    | rest => nextEntry n (found ++ [(key, value)]) rest

def nextEntry : Nat → List (Expr × Expr) → List Token → Option (Front Expr)
  | n + 1, found, .mark "," :: rest => entries n found rest
  | n + 1, found, .mark "\x7d" :: rest => entries n found (.mark "\x7d" :: rest)
  | _, _, _ => none

end

/-- Expressions separated by commas, up to the end. -/
def expressions : Nat → List Token → Option (List Expr × Bool)
  | 0, _ => none
  | _ + 1, [] => some ([], true)
  | n + 1, tokens => do
    let (e, rest) ← expression n tokens
    match rest with
    | [] => return ([e], false)
    | .mark "," :: rest =>
      let (more, _) ← expressions n rest
      return (e :: more, true)
    | _ => none

/-- The expression of a text that starts with an expression. -/
def parseLine? (text : String) : Option Expr := do
  let tokens ← tokens? text
  match ← expressions (32 * (tokens.length + 1)) tokens with
  | ([], _) => none
  | ([e], false) => return e
  | (items, _) => return .tuple items

/-- The expression of a text. -/
def parse? (text : String) : Option Expr :=
  -- An asterisk in front asks for the first of the elements that follow.
  if text.startsWith "*" then parseLine? ("(" ++ text ++ ",)[0]") else parseLine? text

def isExpression (text : String) : Bool :=
  (parse? text).isSome

end Reference
end Schematic
