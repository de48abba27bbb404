import ClientScribe.Interpreter
import ClientScribe.Yaml.Node
import ClientScribe.Yaml.Token

/-!
Reading nodes from tokens.  A fault in the text counts only where its token is reached: what stands
before it may break the rules first.
-/

namespace ClientScribe.Yaml

/-- The handles of tags and what they stand for. -/
abbrev Handles := List (String × String)

/-- The handles that every document has. -/
def Handles.usual : Handles := [("!", "!"), ("!!", Tag.base)]

/-- What stands in front of a node.  The tag is that of no particular kind if it is written `!`. -/
structure Properties where
  anchor : Option String
  /-- The URI of the tag. -/
  tag : Option String

namespace Properties

def isEmpty (p : Properties) : Bool := p.anchor.isNone && p.tag.isNone

/-- The tag, if it names a kind. -/
def kind? (p : Properties) : Option Tag := (p.tag.filter (· ≠ "!")).map Tag.ofUri

/-- The tag of a scalar: without one, or with one that names no kind, plain text tells. -/
def scalarTag (p : Properties) (s : Scalar) : Tag :=
  match p.kind? with
  | some tag => tag
  | none => if s.plain || p.tag.isSome then Tag.ofPlain s.text else .str

end Properties

/-- The tokens left, the names of nodes, and the nodes so far. -/
structure Reading where
  tokens : List Token
  /-- How many tokens there are in all. -/
  total : Nat
  anchors : List (String × Nat)
  graph : Graph

/-- A reader of a part of the tokens. -/
abbrev Part := StateT Reading (Except Fault)

namespace Part

def malformed {α : Type} : Part α := throw .malformed

/-- The next token, if there is one. -/
def head : Part (Option Token) := do
  match (← get).tokens with
  | .broken fault :: _ => throw fault
  | ts => return ts.head?

def skip : Part Unit := modify fun r => { r with tokens := r.tokens.tail }

/-- How many tokens there are in all. -/
def total : Part Nat := return (← get).total

def add (n : Node) : Part Nat :=
  modifyGet fun r => (r.graph.size, { r with graph := r.graph.add n })

def name (anchor : Option String) (i : Nat) : Part Unit :=
  modify fun r => { r with anchors := (anchor.map fun a => (a, i)).toList ++ r.anchors }

/-- The node that an anchor names. -/
def named? (anchor : String) : Part (Option Nat) := return (← get).anchors.lookup anchor

/-! ### Properties -/

/-- The URI of a tag. -/
def uriOf (handles : Handles) (t : TagName) : Part String :=
  match t.handle with
  | none => return t.rest
  | some h =>
    match handles.lookup h with
    | some text => return text ++ t.rest
    | none => malformed

def anchor? : Part (Option String) := do
  match ← head with
  | some (.anchor a) => skip; return some a
  | _ => return none

def tag? : Part (Option TagName) := do
  match ← head with
  | some (.tag t) => skip; return some t
  | _ => return none

/-- The anchor and the tag in front of a node, in either order. -/
def properties (handles : Handles) : Part Properties := do
  let first ← anchor?
  let tag ← tag?
  let anchor ← if first.isNone && tag.isSome then anchor? else pure first
  match tag with
  | some t => return ⟨anchor, some (← uriOf handles t)⟩
  | none => return ⟨anchor, none⟩

/-! ### Collections -/

/-- A node, or nothing in front of one of the tokens `ends`. -/
def orEmpty (item : Part Nat) (ends : List Token) : Part Nat := do
  match ← head with
  | some t => if ends.contains t then add .empty else item
  | none => item

/-- The value behind a key, if there is one. -/
def valueOrEmpty (item : Part Nat) (ends : List Token) : Part Nat := do
  match ← head with
  | some .value => skip; orEmpty item ends
  | _ => add .empty

/-- The items of a block sequence; `done` holds those read, last first.  Here and below each round
takes a token, so `rounds` may be the number of tokens. -/
def blockItems (item : Part Nat) : (rounds : Nat) → (done : List Nat) → Part (List Nat)
  | 0, _ => malformed
  | rounds + 1, done => do
    match ← head with
    | some .entry =>
      skip
      blockItems item rounds ((← orEmpty item [.entry, .blockEnd]) :: done)
    | some .blockEnd => skip; return done.reverse
    | _ => malformed

/-- The items of a sequence that has no block of its own. -/
def looseItems (item : Part Nat) : (rounds : Nat) → (done : List Nat) → Part (List Nat)
  | 0, _ => malformed
  | rounds + 1, done => do
    match ← head with
    | some .entry =>
      skip
      looseItems item rounds ((← orEmpty item [.entry, .key, .value, .blockEnd]) :: done)
    | _ => return done.reverse

/-- The entries of a block mapping. -/
def blockEntries (item : Part Nat) :
    (rounds : Nat) → (done : List (Nat × Nat)) → Part (List (Nat × Nat))
  | 0, _ => malformed
  | rounds + 1, done => do
    match ← head with
    | some .key =>
      skip
      let k ← orEmpty item [.key, .value, .blockEnd]
      let v ← valueOrEmpty item [.key, .value, .blockEnd]
      blockEntries item rounds ((k, v) :: done)
    | some .blockEnd => skip; return done.reverse
    | _ => malformed

/-- An item in brackets: a node, or a single entry that makes a mapping by itself. -/
def flowItem (item : Part Nat) : Part Nat := do
  match ← head with
  | some .key =>
    skip
    let k ← orEmpty item [.value, .comma, .flowSequenceEnd]
    let v ← valueOrEmpty item [.comma, .flowSequenceEnd]
    add ⟨.map, .mapping [(k, v)]⟩
  | _ => item

/-- An entry in braces: a key that is announced may have a value. -/
def flowEntry (item : Part Nat) : Part (Nat × Nat) := do
  match ← head with
  | some .key =>
    skip
    let k ← orEmpty item [.value, .comma, .flowMappingEnd]
    let v ← valueOrEmpty item [.comma, .flowMappingEnd]
    return (k, v)
  | _ =>
    let k ← item
    return (k, ← add .empty)

/-- The things behind a comma, up to `finish`. -/
def flowRest {α : Type} (part : Part α) (finish : Token) :
    (rounds : Nat) → (done : List α) → Part (List α)
  | 0, _ => malformed
  | rounds + 1, done => do
    match ← head with
    | some t =>
      if t = finish then skip; return done.reverse
      else if t ≠ .comma then malformed
      else
        skip
        if (← head) = some finish then skip; return done.reverse
        else flowRest part finish rounds ((← part) :: done)
    | none => malformed

/-- Things between brackets up to `finish`, with commas between them and perhaps one behind the
last. -/
def flowParts {α : Type} (part : Part α) (finish : Token) (rounds : Nat) : Part (List α) := do
  if (← head) = some finish then skip; return []
  else flowRest part finish rounds [← part]

/-! ### Nodes -/

/-- A collection.  It has its number and its name before its parts are read: they may name it. -/
def collection {α : Type} (anchor : Option String) (tag : Tag) (content : List α → Content)
    (parts : Part (List α)) : Part Nat := do
  let i ← add ⟨tag, content []⟩
  name anchor i
  let as ← parts
  modify fun r => { r with graph := r.graph.fill i (content as) }
  return i

def sequence (p : Properties) (items : Part (List Nat)) : Part Nat :=
  collection p.anchor (p.kind?.getD .seq) .sequence items

def mapping (p : Properties) (entries : Part (List (Nat × Nat))) : Part Nat :=
  collection p.anchor (p.kind?.getD .map) .mapping entries

def scalar (p : Properties) (s : Scalar) : Part Nat := do
  let i ← add ⟨p.scalarTag s, .scalar s⟩
  name p.anchor i
  return i

/-- Where a node stands. -/
inductive Place where
  | flow
  | block
  /-- Where the items of a sequence may stand no deeper than what they belong to. -/
  | entry
deriving DecidableEq

/-- What follows the properties of a node.  The nodes inside it are read by `item`. -/
def content (item : Place → Part Nat) (place : Place) (p : Properties) : Part Nat := do
  let rounds ← total
  match ← head, place with
  | some .entry, .entry => sequence p (looseItems (item .block) rounds [])
  | some (.scalar s), _ => skip; scalar p s
  | some .flowSequence, _ =>
    sequence p do skip; flowParts (flowItem (item .flow)) .flowSequenceEnd rounds
  | some .flowMapping, _ =>
    mapping p do skip; flowParts (flowEntry (item .flow)) .flowMappingEnd rounds
  | some .blockSequence, .block | some .blockSequence, .entry =>
    sequence p do skip; blockItems (item .block) rounds []
  | some .blockMapping, .block | some .blockMapping, .entry =>
    mapping p do skip; blockEntries (item .entry) rounds []
  | _, _ => if p.isEmpty then malformed else scalar p .empty

/-- A node.  No more than `depth` nodes may be inside each other. -/
def node (handles : Handles) : (depth : Nat) → (place : Place) → Part Nat
  | 0, _ => do
    let _ ← head
    throw .endless
  | depth + 1, place => do
    match ← head with
    | some (.alias a) =>
      skip
      match ← named? a with
      | some i => return i
      | none => malformed
    | _ =>
      let p ← properties handles
      let _ ← head
      match p.anchor with
      | none => content (node handles depth) place p
      | some a =>
        if (← named? a).isSome then malformed
        else content (node handles depth) place p

/-! ### Documents -/

/-- The directives in front of a document: the handles they declare. -/
def directives (handles : Handles) (versioned : Bool) : (rounds : Nat) → Part Handles
  | 0 => return handles
  | rounds + 1 => do
    match ← head with
    | some (.directive (.version major)) =>
      skip
      if versioned || major ≠ 1 then malformed else directives handles true rounds
    | some (.directive (.handle name text)) =>
      skip
      if (handles.lookup name).isSome then malformed
      else directives ((name, text) :: handles) versioned rounds
    | some (.directive .other) => skip; directives handles versioned rounds
    | _ => return handles

/-- A document that directives or a marker announce; its node may be omitted. -/
def announced [Interpreter] : Part Nat := do
  let handles ← directives [] false (← total)
  match ← head with
  | some .documentStart =>
    skip
    match ← head with
    | none | some (.directive _) | some .documentStart | some .documentEnd => add .empty
    | some _ => node (handles ++ Handles.usual) Interpreter.documentDepth .block
  | _ => malformed

/-- Passes the ends of documents. -/
def skipEnds : (rounds : Nat) → Part Unit
  | 0 => return
  | rounds + 1 => do
    match ← head with
    | some .documentEnd => skip; skipEnds rounds
    | _ => return

/-- Nothing but ends of documents may follow; of a second document the directives are read. -/
def finish : Part Unit := do
  skipEnds (← total)
  match ← head with
  | none => return
  | some _ =>
    let _ ← directives [] false (← total)
    malformed

/-- The only document, by its node, or nothing if there is none. -/
def document [Interpreter] : Part (Option Nat) := do
  match ← head with
  | none => return none
  | some t =>
    let root ←
      match t with
      | .directive _ | .documentStart => announced
      | _ => node Handles.usual Interpreter.documentDepth .block
    finish
    return some root

end Part

/-- The nodes of a document, and the one that is the document. -/
def Graph.ofTokens [Interpreter] (ts : List Token) : Except Fault (Graph × Option Nat) :=
  (Part.document.run ⟨ts, ts.length, [], ⟨#[]⟩⟩).map fun (root, r) => (r.graph, root)

end ClientScribe.Yaml
