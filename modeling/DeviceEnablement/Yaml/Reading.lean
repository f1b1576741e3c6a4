/-
  YAML text.

  A text is one document: directives and the mark that begins it, if it is marked, a node, and any
  number of marks that end it.  Where there is nothing, the document is a node where nothing is
  written.

  1. In front of a node there may be an anchor and a tag, in either order.
  2. Where a node is missing behind the mark that announces it, nothing is written there.
  3. The items of a block sequence may stand in the column of the keys around it.
  4. An entry in a flow sequence is a mapping of its own.  Where its key is missing, the colon,
     comma or closing bracket behind the question mark is passed over (`pair`).

  The readers of nodes call each other on the tokens that follow.  Each call takes one unit of fuel;
  no more than five calls inside of each other begin at the same token.
-/
import DeviceEnablement.Yaml.Lexer

namespace DeviceEnablement.Yaml

/-! ## What stands in front of a node -/

/-- An anchor and a tag in front of a node. -/
structure Properties where
  anchor : Option Nat := none
  tag : Option String := none

namespace Properties

/-- The properties that stand here, and what follows them. -/
def span : List Token → Properties × List Token
  | .anchor number :: .tag text :: rest => (⟨some number, some text⟩, rest)
  | .tag text :: .anchor number :: rest => (⟨some number, some text⟩, rest)
  | .anchor number :: rest => ({ anchor := some number }, rest)
  | .tag text :: rest => ({ tag := some text }, rest)
  | rest => ({}, rest)

/-- Whether there is an anchor or a tag. -/
def isSome (p : Properties) : Bool := p.anchor.isSome || p.tag.isSome

/-- A node with the number of its anchor. -/
def anchored (p : Properties) (node : Yaml) : Yaml :=
  match p.anchor with
  | some number => .anchored number node
  | none => node

end Properties

/-! ## Where nothing is written -/

/-- Whether the next token says that an item, key or value of a block collection is missing. -/
def atBlockGap : List Token → Bool
  | .dash :: _ => true
  | .key :: _ => true
  | .value :: _ => true
  | .blockEnd :: _ => true
  | _ => false

/-- Whether the next token says that a key or value of a block mapping is missing. -/
def atEntryGap (tokens : List Token) : Bool := atBlockGap tokens && tokens.head? ≠ some .dash

/-- Whether the next token ends an item or entry of a flow collection. -/
def atFlowGap (kind : Collection) : List Token → Bool
  | .comma :: _ => true
  | .flowEnd other :: _ => other = kind
  | _ => false

/-- Whether the next token says that a key of a flow collection is missing. -/
def atFlowKeyGap (kind : Collection) (tokens : List Token) : Bool :=
  atFlowGap kind tokens || tokens.head? = some .value

/-! ## Nodes -/

/-- What has been read of a block collection, if it ends here, and what follows the end. -/
def ended? {α : Type} : α × List Token → Option (α × List Token)
  | (value, .blockEnd :: rest) => some (value, rest)
  | _ => none

mutual

/-- The node that stands here, and what follows it.  It may be a block collection if `block`, and a
    block sequence in the column of the keys around it if `level`. -/
def node (block level : Bool) : Nat → List Token → Option (Yaml × List Token)
  | 0, _ => none
  | _ + 1, .alias number :: rest => some (.alias number, rest)
  | fuel + 1, tokens =>
    let (properties, rest) := Properties.span tokens
    (content block level properties fuel rest).map fun (node, rest) =>
      (properties.anchored node, rest)

/-- The node that stands here behind its properties, and what follows it. -/
def content (block level : Bool) (properties : Properties) :
    Nat → List Token → Option (Yaml × List Token)
  | 0, _ => none
  | fuel + 1, tokens =>
    match tokens, block, level with
    | .scalar style text :: rest, _, _ => some (.scalar properties.tag style text, rest)
    | .flowStart .sequence :: rest, _, _ =>
      (flowItems fuel rest).map fun (items, rest) => (.sequence items, rest)
    | .flowStart .mapping :: rest, _, _ =>
      (flowEntries fuel rest).map fun (entries, rest) => (.mapping entries, rest)
    | .blockStart .sequence :: rest, true, _ =>
      ((items fuel rest).bind ended?).map fun (items, rest) => (.sequence items, rest)
    | .blockStart .mapping :: rest, true, _ =>
      ((entries fuel rest).bind ended?).map fun (entries, rest) => (.mapping entries, rest)
    | .dash :: rest, _, true =>
      (items fuel (.dash :: rest)).map fun (items, rest) => (.sequence items, rest)
    | rest, _, _ =>
      if properties.isSome then some (.scalar properties.tag .plain "", rest) else none

/-- The node that stands here unless the next token is a `gap`, and what follows it. -/
def nodeUnless (gap : List Token → Bool) (block level : Bool) :
    Nat → List Token → Option (Yaml × List Token)
  | 0, _ => none
  | fuel + 1, tokens =>
    if gap tokens then some (empty, tokens) else node block level fuel tokens

/-- The value of an entry behind its key, and what follows it. -/
def value (gap : List Token → Bool) (block : Bool) : Nat → List Token → Option (Yaml × List Token)
  | 0, _ => none
  | fuel + 1, .value :: rest => nodeUnless gap block block fuel rest
  | _ + 1, rest => some (empty, rest)

/-- The entry behind the mark of its key, and what follows it. -/
def entry (keyGap valueGap : List Token → Bool) (block : Bool) :
    Nat → List Token → Option ((Yaml × Yaml) × List Token)
  | 0, _ => none
  | fuel + 1, tokens =>
    match nodeUnless keyGap block block fuel tokens with
    | some (key, rest) =>
      (value valueGap block fuel rest).map fun (value, rest) => ((key, value), rest)
    | none => none

/-- The items of a block sequence that stand here, and what follows them. -/
def items : Nat → List Token → Option (List Yaml × List Token)
  | 0, _ => none
  | fuel + 1, .dash :: rest =>
    match nodeUnless atBlockGap true false fuel rest with
    | some (item, rest) => (items fuel rest).map fun (items, rest) => (item :: items, rest)
    | none => none
  | _ + 1, rest => some ([], rest)

/-- The entries of a block mapping that stand here, and what follows them. -/
def entries : Nat → List Token → Option (List (Yaml × Yaml) × List Token)
  | 0, _ => none
  | fuel + 1, .key :: rest =>
    match entry atEntryGap atEntryGap true fuel rest with
    | some (entry, rest) => (entries fuel rest).map fun (entries, rest) => (entry :: entries, rest)
    | none => none
  | _ + 1, rest => some ([], rest)

/-- The entry of a flow sequence behind the mark of its key, and what follows it. -/
def pair : Nat → List Token → Option (Yaml × List Token)
  | 0, _ => none
  | fuel + 1, tokens =>
    let key :=
      if atFlowKeyGap .sequence tokens then some (empty, tokens.tail)
      else node false false fuel tokens
    match key with
    | some (key, rest) =>
      (value (atFlowGap .sequence) false fuel rest).map fun (value, rest) =>
        (.mapping [(key, value)], rest)
    | none => none

/-- The items of a flow sequence from here on, and what follows its end. -/
def flowItems : Nat → List Token → Option (List Yaml × List Token)
  | 0, _ => none
  | _ + 1, .flowEnd .sequence :: rest => some ([], rest)
  | fuel + 1, tokens =>
    let item := match tokens with
      | .key :: rest => pair fuel rest
      | tokens => node false false fuel tokens
    match item with
    | some (item, .comma :: rest) =>
      (flowItems fuel rest).map fun (items, rest) => (item :: items, rest)
    | some (item, .flowEnd .sequence :: rest) => some ([item], rest)
    | _ => none

/-- The entries of a flow mapping from here on, and what follows its end. -/
def flowEntries : Nat → List Token → Option (List (Yaml × Yaml) × List Token)
  | 0, _ => none
  | _ + 1, .flowEnd .mapping :: rest => some ([], rest)
  | fuel + 1, tokens =>
    let entry := match tokens with
      | .key :: rest => entry (atFlowKeyGap .mapping) (atFlowGap .mapping) false fuel rest
      | tokens => (node false false fuel tokens).map fun (key, rest) => ((key, empty), rest)
    match entry with
    | some (entry, .comma :: rest) =>
      (flowEntries fuel rest).map fun (entries, rest) => (entry :: entries, rest)
    | some (entry, .flowEnd .mapping :: rest) => some ([entry], rest)
    | _ => none

end

/-! ## Documents -/

/-- Whether the next token begins or ends a document, or there is none. -/
def atDocumentGap : List Token → Bool
  | [] => true
  | .directive :: _ => true
  | .documentStart :: _ => true
  | .documentEnd :: _ => true
  | _ => false

/-- The one document in some tokens, and what follows it. -/
def document? (tokens : List Token) : Option (Yaml × List Token) :=
  let fuel := 6 * tokens.length + 6
  match tokens.dropWhile (· = .directive) with
  | [] => if tokens = [] then some (empty, []) else none
  | .documentStart :: rest => nodeUnless atDocumentGap true false fuel rest
  | rest => if rest = tokens then node true false fuel tokens else none

/-- The node of a whole text. -/
def ofText? (text : String) : Option Yaml :=
  match (tokens? text).bind document? with
  | some (node, rest) => if rest.all (· = .documentEnd) then some node else none
  | none => none

end DeviceEnablement.Yaml
