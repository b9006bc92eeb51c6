import TableTalk.Yaml.Token

/-!
# Reading tokens

A text is read token by token. A colon makes a key of the token or collection
before it, which is only known afterwards: the places where a key may begin are
kept, and the tokens that begin a key are put in there once its colon is found. A
key stands on one line and is at most 1024 characters away from its colon.
-/

namespace TableTalk.Yaml

/-- A place where a key may begin. -/
structure KeyStart where
  /-- The number of tokens before it. -/
  tokens : Nat
  /-- Whether nothing but a key can stand there. -/
  isRequired : Bool
  place : Place

/-- What has been read of a text. -/
structure Lexer where
  place : Place
  /-- The tokens before the place, the latest first. -/
  tokens : List Token
  /-- The number of these tokens. -/
  count : Nat
  /-- The columns of the open collections that are set off by indentation, the innermost first. -/
  indents : List Nat
  /-- Where a key may begin within the innermost brackets, or outside of all. -/
  key : Option KeyStart
  /-- The same for what is around each of the open brackets, from the inside to the outside. -/
  outerKeys : List (Option KeyStart)
  /-- Whether a key may begin at the place. -/
  allowsKey : Bool

namespace Lexer

/-- The start of a text. -/
def start (cs : List Char) : Lexer :=
  ⟨.start cs, [], 0, [], none, [], true⟩

/-- Whether the place is within brackets. -/
def inFlow (l : Lexer) : Bool :=
  !l.outerKeys.isEmpty

/-- The column of the innermost open collection that is set off by indentation. -/
def indent (l : Lexer) : Int :=
  match l.indents with
  | [] => -1
  | column :: _ => column

/-- Puts a token before the last `later` ones. -/
def insert (l : Lexer) (later : Nat) (token : Token) : Lexer :=
  { l with
    tokens := l.tokens.take later ++ token :: l.tokens.drop later
    count := l.count + 1 }

/-- Adds a token and moves on to the place after it. -/
def push (l : Lexer) (token : Token) (place : Place) : Lexer :=
  { l.insert 0 token with place }

/-- Adds a token that takes up some characters. -/
def pushSign (l : Lexer) (token : Token) (length : Nat) : Lexer :=
  l.push token (l.place.skip length)

/-- Moves over blanks, comments and line breaks, after which a key may begin outside of brackets.
Tabs are passed over where no key may begin. -/
def skipSpace : Nat → Lexer → Lexer
  | 0, l => l
  | fuel + 1, l =>
    let allowsTabs := l.inFlow || !l.allowsKey
    let s := if l.place.column == 0 && l.place.startsWith '\ufeff' then l.place.next else l.place
    let s := (s.skipWhile fun c => c == ' ' || (allowsTabs && c == '\t')).skipComment
    if s.rest.isEmpty || !s.atLineEnd then { l with place := s }
    else skipSpace fuel { l with place := s.next, allowsKey := l.allowsKey || !l.inFlow }

/-- The place of a key, unless it has been left behind; fails if a key had to be there. -/
def current? (l : Lexer) : Option KeyStart → Option (Option KeyStart)
  | none => some none
  | some key =>
    if key.place.line < l.place.line || key.place.index + 1024 < l.place.index then
      if key.isRequired then none else some none
    else some (some key)

/-- Gives up the places of keys that have been left behind. -/
def dropStaleKeys? (l : Lexer) : Option Lexer := do
  let key ← l.current? l.key
  let outerKeys ← l.outerKeys.mapM l.current?
  pure { l with key, outerKeys }

/-- Gives up the place of a key; fails if a key had to be there. -/
def forgetKey? (l : Lexer) : Option Lexer :=
  if l.key.any KeyStart.isRequired then none else some { l with key := none }

/-- Keeps the place as one where a key may begin, if it may. -/
def rememberKey? (l : Lexer) : Option Lexer :=
  if !l.allowsKey then some l
  else
    l.forgetKey?.map fun l =>
      { l with key := some ⟨l.count, !l.inFlow && l.indent == l.place.column, l.place⟩ }

/-- Ends the collections that stand deeper than a column. -/
def closeTo (l : Lexer) (column : Int) : Lexer :=
  if l.inFlow then l
  else
    let deeper := (l.indents.takeWhile fun (n : Nat) => column < (n : Int)).length
    { l with
      tokens := List.replicate deeper .blockEnd ++ l.tokens
      count := l.count + deeper
      indents := l.indents.drop deeper }

/-- Begins a collection at a column if none of that column is open, before the last `later`
tokens. -/
def openAt (l : Lexer) (column : Nat) (later : Nat) (token : Token) : Lexer :=
  if l.inFlow || column ≤ l.indent then l
  else { l.insert later token with indents := column :: l.indents }

/-- Reads what stands on a line of its own between documents. -/
def pushBetween? (l : Lexer) (token : Token) (place : Place) : Option Lexer := do
  let l ← (l.closeTo (-1)).forgetKey?
  pure ({ l with allowsKey := false }.push token place)

/-- Reads an opening bracket. -/
def openBracket? (l : Lexer) (token : Token) : Option Lexer := do
  let l ← l.rememberKey?
  pure ({ l with key := none, outerKeys := l.key :: l.outerKeys, allowsKey := true }.pushSign
    token 1)

/-- Reads a closing bracket. -/
def closeBracket? (l : Lexer) (token : Token) : Option Lexer := do
  let l ← l.forgetKey?
  let l :=
    match l.outerKeys with
    | [] => l
    | key :: outerKeys => { l with key, outerKeys }
  pure ({ l with allowsKey := false }.pushSign token 1)

/-- Reads a comma. -/
def comma? (l : Lexer) : Option Lexer := do
  let l ← l.forgetKey?
  pure ({ l with allowsKey := true }.pushSign .comma 1)

/-- Reads the sign of an item or of a key, which may begin a collection. -/
def collectionSign? (l : Lexer) (collection sign : Token) : Option Lexer := do
  if !l.inFlow && !l.allowsKey then none
  (l.openAt l.place.column 0 collection).forgetKey?.map fun l => l.pushSign sign 1

/-- Reads the sign of an item. -/
def item? (l : Lexer) : Option Lexer :=
  (l.collectionSign? .blockSequence .item).map fun l => { l with allowsKey := true }

/-- Reads the sign of a key. -/
def key? (l : Lexer) : Option Lexer :=
  (l.collectionSign? .blockMapping .key).map fun l => { l with allowsKey := !l.inFlow }

/-- Reads a colon. If a key may have begun before it, that was one. -/
def value? (l : Lexer) : Option Lexer :=
  match l.key with
  | some key =>
    let later := l.count - key.tokens
    let l := (l.insert later .key).openAt key.place.column (later + 1) .blockMapping
    some ({ l with key := none, allowsKey := false }.pushSign .value 1)
  | none =>
    if !l.inFlow && !l.allowsKey then none
    else
      let l := l.openAt l.place.column 0 .blockMapping
      some ({ l with allowsKey := !l.inFlow }.pushSign .value 1)

/-- Reads a token that may be a key, or a part of one. -/
def pushInline? (l : Lexer) (read : Place → Option (Token × Place)) : Option Lexer := do
  let l ← l.rememberKey?
  let (token, final) ← read l.place
  pure ({ l with allowsKey := false }.push token final)

/-- Reads an anchor, or a reference to one. -/
def anchor? (l : Lexer) (token : String → Token) : Option Lexer :=
  l.pushInline? fun s => (anchorName? s.next).map fun (name, final) => (token name, final)

/-- Reads a tag, after which a blank has to come, or within brackets a comma. -/
def tag? (l : Lexer) : Option Lexer :=
  l.pushInline? fun s => do
    let (token, final) ← Yaml.tag? s
    if final.spaceAt 0 || (l.inFlow && final.startsWith ',') then some (token, final) else none

/-- Reads a scalar in quotes. -/
def quoted? (l : Lexer) : Option Lexer :=
  l.pushInline? fun s =>
    (Yaml.quoted? s).map fun (content, final) => (.scalar .quoted (String.ofList content), final)

/-- Reads a plain scalar. A key may follow if it has gone on to a later line. -/
def plain? (l : Lexer) : Option Lexer := do
  let l ← l.rememberKey?
  let text ← Yaml.plain? l.inFlow (l.indent + 1).toNat l.place
  pure ({ l with allowsKey := text.endsLine }.push
    (.scalar .plain (String.ofList text.content)) text.final)

/-- Reads a block scalar. -/
def block? (l : Lexer) (style : Style) : Option Lexer := do
  let l ← l.forgetKey?
  let (content, final) ← Yaml.block? (style == .folded) l.indent l.place
  pure ({ l with allowsKey := true }.push (.scalar style (String.ofList content)) final)

/-- Reads the token at the place, which is not the end of the text. -/
def token? (l : Lexer) : Option Lexer :=
  let s := l.place
  if s.column == 0 && s.startsWith '%' then do
    let (token, final) ← directive? s
    l.pushBetween? token final
  else if s.atMarkerOf '-' then l.pushBetween? .documentStart (s.skip 3)
  else if s.atMarkerOf '.' then l.pushBetween? .documentEnd (s.skip 3)
  else if s.atIndicator '-' then l.item?
  else if s.startsWith '?' && (l.inFlow || s.spaceAt 1) then l.key?
  else if s.startsWith ':' && (l.inFlow || s.spaceAt 1) then l.value?
  else
    match s.rest with
    | '[' :: _ => l.openBracket? .openSequence
    | '{' :: _ => l.openBracket? .openMapping
    | ']' :: _ => l.closeBracket? .closeSequence
    | '}' :: _ => l.closeBracket? .closeMapping
    | ',' :: _ => l.comma?
    | '*' :: _ => l.anchor? .reference
    | '&' :: _ => l.anchor? .anchor
    | '!' :: _ => l.tag?
    | '\'' :: _ | '"' :: _ => l.quoted?
    | '|' :: _ => if l.inFlow then none else l.block? .literal
    | '>' :: _ => if l.inFlow then none else l.block? .folded
    | _ => if startsPlain l.inFlow s then l.plain? else none

/-- Reads tokens up to the end of the text. -/
def run? : Nat → Lexer → Option Lexer
  | 0, _ => none
  | fuel + 1, l => do
    let l ← (l.skipSpace (l.place.rest.length + 1)).dropStaleKeys?
    if l.place.rest.isEmpty then (l.closeTo (-1)).forgetKey?
    else run? fuel (← (l.closeTo l.place.column).token?)

end Lexer

/-- The tokens of a text, if it is well formed as far as they go. -/
def tokens? (text : String) : Option (List Token) :=
  let cs := text.toList
  if !cs.all isPrintable then none
  else
    let cs := unixLines cs
    (Lexer.run? (cs.length + 1) (.start cs)).map fun l => l.tokens.reverse

end TableTalk.Yaml
