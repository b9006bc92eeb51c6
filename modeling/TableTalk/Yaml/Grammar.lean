import TableTalk.Yaml.Lexer
import TableTalk.Yaml.Node

/-!
# From tokens to nodes

The grammar of documents. A text holds one document, perhaps with directives and
markers around it. A node may be missing where the grammar has a place for it;
an empty scalar then stands there.
-/

namespace TableTalk.Yaml

/-- What is left of the tokens, and what has been said about names. -/
structure Reading where
  tokens : List Token
  /-- What the handles of tags stand for. -/
  handles : List (String × String)
  /-- The latest anchor of every name. -/
  anchors : List (String × Nat)

namespace Reading

/-- Moves on to other tokens. -/
def goTo (r : Reading) (tokens : List Token) : Reading :=
  { r with tokens }

/-- Gives a name to the node that begins here. Anchors are counted by the names before them. -/
def addAnchor (r : Reading) (name : String) : Reading × Nat :=
  let anchor := r.anchors.length
  if (r.anchors.lookup name).isSome then
    ({ r with anchors := r.anchors.map fun (other, old) =>
        (other, if other == name then anchor else old) }, anchor)
  else ({ r with anchors := r.anchors ++ [(name, anchor)] }, anchor)

/-- A tag in full, if its handle stands for something. -/
def fullTag? (r : Reading) (handle suffix : String) : Option String :=
  if handle == "" then some suffix
  else (r.handles.lookup handle).map (· ++ suffix)

end Reading

/-- The name and the tag that stand before a node, in either order, and what follows. -/
def properties : List Token → (Option String × Option (String × String)) × List Token
  | .anchor name :: .tag handle suffix :: rest => ((some name, some (handle, suffix)), rest)
  | .tag handle suffix :: .anchor name :: rest => ((some name, some (handle, suffix)), rest)
  | .anchor name :: rest => ((some name, none), rest)
  | .tag handle suffix :: rest => ((none, some (handle, suffix)), rest)
  | tokens => ((none, none), tokens)

/-- Reads what stands before a node. -/
def label? (r : Reading) : Option (Label × Reading) := do
  let ((name, tag), rest) := properties r.tokens
  let tag ←
    match tag with
    | none => some none
    | some (handle, suffix) => (r.fullTag? handle suffix).map some
  let r := r.goTo rest
  match name with
  | none => pure ({ tag }, r)
  | some name =>
    let (r, anchor) := r.addAnchor name
    pure ({ anchor := some anchor, tag }, r)

/-- Whether no node follows in a collection that is set off by indentation. -/
def endsEntry : List Token → Bool
  | [] => false
  | token :: _ => [.key, .value, .blockEnd].contains token

/-- Whether no node follows in brackets that end with a token. -/
def endsFlowEntry (close : Token) : List Token → Bool
  | [] => false
  | token :: _ => token == .comma || token == close

mutual

/-- Reads a node. Within brackets no collection is set off by indentation, and only in an entry of
a mapping may items follow that are not. -/
def node? (fuel : Nat) (inBlock inEntry : Bool) (r : Reading) : Option (Node × Reading) :=
  match fuel with
  | 0 => none
  | fuel + 1 => do
    match r.tokens with
    | .reference name :: rest =>
      let anchor ← r.anchors.lookup name
      pure (.reference anchor, r.goTo rest)
    | _ =>
      let (label, after) ← label? r
      let isLabelled := label.anchor.isSome || label.tag.isSome
      let missing :=
        if isLabelled then some (Node.scalar label .plain "", after) else none
      match after.tokens with
      | .item :: _ =>
        if inEntry then do
          let (items, final) ← looseItems? fuel after
          pure (.sequence label items, final)
        else missing
      | .scalar style text :: rest => pure (.scalar label style text, after.goTo rest)
      | .openSequence :: rest =>
        let (items, final) ← flowItems? fuel true (after.goTo rest)
        pure (.sequence label items, final)
      | .openMapping :: rest =>
        let (entries, final) ← flowEntries? fuel true (after.goTo rest)
        pure (.mapping label entries, final)
      | .blockSequence :: rest =>
        if inBlock then do
          let (items, final) ← blockItems? fuel (after.goTo rest)
          pure (.sequence label items, final)
        else missing
      | .blockMapping :: rest =>
        if inBlock then do
          let (entries, final) ← blockEntries? fuel (after.goTo rest)
          pure (.mapping label entries, final)
        else missing
      | _ => missing

/-- Reads the items of a sequence that is set off by indentation. -/
def blockItems? (fuel : Nat) (r : Reading) : Option (List Node × Reading) :=
  match fuel with
  | 0 => none
  | fuel + 1 =>
    match r.tokens with
    | .blockEnd :: rest => some ([], r.goTo rest)
    | .item :: rest => do
      let after := r.goTo rest
      let (item, after) ←
        match rest with
        | .item :: _ | .blockEnd :: _ => pure (Node.empty, after)
        | _ => node? fuel true false after
      let (items, final) ← blockItems? fuel after
      pure (item :: items, final)
    | _ => none

/-- Reads the items of a sequence that stands as deep as the key it belongs to. -/
def looseItems? (fuel : Nat) (r : Reading) : Option (List Node × Reading) :=
  match fuel with
  | 0 => none
  | fuel + 1 =>
    match r.tokens with
    | .item :: rest => do
      let after := r.goTo rest
      let (item, after) ←
        if rest.head? == some .item || endsEntry rest then pure (Node.empty, after)
        else node? fuel true false after
      let (items, final) ← looseItems? fuel after
      pure (item :: items, final)
    | _ => some ([], r)

/-- Reads a key or a value of a mapping that is set off by indentation. -/
def entryNode? (fuel : Nat) (r : Reading) : Option (Node × Reading) :=
  match fuel with
  | 0 => none
  | fuel + 1 => if endsEntry r.tokens then some (.empty, r) else node? fuel true true r

/-- Reads the entries of a mapping that is set off by indentation. -/
def blockEntries? (fuel : Nat) (r : Reading) : Option (List (Node × Node) × Reading) :=
  match fuel with
  | 0 => none
  | fuel + 1 =>
    match r.tokens with
    | .blockEnd :: rest => some ([], r.goTo rest)
    | .key :: rest => do
      let (key, after) ← entryNode? fuel (r.goTo rest)
      let (value, after) ←
        match after.tokens with
        | .value :: rest => entryNode? fuel (after.goTo rest)
        | _ => pure (Node.empty, after)
      let (entries, final) ← blockEntries? fuel after
      pure ((key, value) :: entries, final)
    | _ => none

/-- Reads the value of an entry within brackets that end with a token. -/
def flowValue? (fuel : Nat) (close : Token) (r : Reading) : Option (Node × Reading) :=
  match fuel with
  | 0 => none
  | fuel + 1 =>
    match r.tokens with
    | .value :: rest =>
      if endsFlowEntry close rest then some (.empty, r.goTo rest)
      else node? fuel false false (r.goTo rest)
    | _ => some (.empty, r)

/-- Reads one item of a bracketed sequence. An entry of a mapping stands for a mapping with this
entry alone; if its key is missing, the token in its place is passed over. -/
def flowItem? (fuel : Nat) (r : Reading) : Option (Node × Reading) :=
  match fuel with
  | 0 => none
  | fuel + 1 =>
    match r.tokens with
    | .key :: rest => do
      let after := r.goTo rest
      let (key, after) ←
        if rest.head? == some .value || endsFlowEntry .closeSequence rest then
          pure (Node.empty, after.goTo (rest.drop 1))
        else node? fuel false false after
      let (value, after) ← flowValue? fuel .closeSequence after
      pure (.mapping {} [(key, value)], after)
    | _ => node? fuel false false r

/-- Reads the items of a bracketed sequence up to its closing bracket. -/
def flowItems? (fuel : Nat) (isFirst : Bool) (r : Reading) : Option (List Node × Reading) :=
  match fuel with
  | 0 => none
  | fuel + 1 =>
    match r.tokens, isFirst with
    | .closeSequence :: rest, _ => some ([], r.goTo rest)
    | .comma :: .closeSequence :: rest, false => some ([], r.goTo rest)
    | .comma :: rest, false => do
      let (item, after) ← flowItem? fuel (r.goTo rest)
      let (items, final) ← flowItems? fuel false after
      pure (item :: items, final)
    | _, true => do
      let (item, after) ← flowItem? fuel r
      let (items, final) ← flowItems? fuel false after
      pure (item :: items, final)
    | _, false => none

/-- Reads one entry of a braced mapping. A node without the sign of a key has no value. -/
def flowEntry? (fuel : Nat) (r : Reading) : Option ((Node × Node) × Reading) :=
  match fuel with
  | 0 => none
  | fuel + 1 =>
    match r.tokens with
    | .key :: rest => do
      let after := r.goTo rest
      let (key, after) ←
        if rest.head? == some .value || endsFlowEntry .closeMapping rest then
          pure (Node.empty, after)
        else node? fuel false false after
      let (value, after) ← flowValue? fuel .closeMapping after
      pure ((key, value), after)
    | _ => do
      let (key, after) ← node? fuel false false r
      pure ((key, .empty), after)

/-- Reads the entries of a braced mapping up to its closing brace. -/
def flowEntries? (fuel : Nat) (isFirst : Bool) (r : Reading) :
    Option (List (Node × Node) × Reading) :=
  match fuel with
  | 0 => none
  | fuel + 1 =>
    match r.tokens, isFirst with
    | .closeMapping :: rest, _ => some ([], r.goTo rest)
    | .comma :: .closeMapping :: rest, false => some ([], r.goTo rest)
    | .comma :: rest, false => do
      let (entry, after) ← flowEntry? fuel (r.goTo rest)
      let (entries, final) ← flowEntries? fuel false after
      pure (entry :: entries, final)
    | _, true => do
      let (entry, after) ← flowEntry? fuel r
      let (entries, final) ← flowEntries? fuel false after
      pure (entry :: entries, final)
    | _, false => none

end

/-- The handles that stand for something unless a document says otherwise. -/
def standardHandles : List (String × String) :=
  [("!", "!"), ("!!", "tag:yaml.org,2002:")]

/-- Reads directives: at most one version, which has to be known, and one meaning for a handle. -/
def directives? : List Token → (hasVersion : Bool) → (handles : List (String × String)) →
    Option (List (String × String) × List Token)
  | .version major minor :: rest, hasVersion, handles =>
    if hasVersion || major != 1 || (minor != 1 && minor != 2) then none
    else directives? rest true handles
  | .handle name replacement :: rest, hasVersion, handles =>
    if (handles.lookup name).isSome then none
    else directives? rest hasVersion ((name, replacement) :: handles)
  | rest, _, handles => some (handles, rest)

/-- Whether a document without content ends here. -/
def endsDocument : List Token → Bool
  | [] => true
  | .version _ _ :: _ | .handle _ _ :: _ | .documentStart :: _ | .documentEnd :: _ => true
  | _ => false

/-- Reads the content of a document, after which nothing but markers of its end may follow. -/
def document? (r : Reading) : Option Node := do
  let (node, final) ← node? (4 * r.tokens.length + 4) true false r
  if final.tokens.all (· == .documentEnd) then some node else none

/-- The node that a text holds. A text without tokens holds an empty one. -/
def Node.ofTokens? (tokens : List Token) : Option Node :=
  match tokens with
  | [] => some .empty
  | .version _ _ :: _ | .handle _ _ :: _ | .documentStart :: _ => do
    let (handles, rest) ← directives? tokens false []
    match rest with
    | .documentStart :: rest =>
      if endsDocument rest then
        if rest.all (· == .documentEnd) then some .empty else none
      else document? ⟨rest, handles ++ standardHandles, []⟩
    | _ => none
  | _ => document? ⟨tokens, standardHandles, []⟩

end TableTalk.Yaml
