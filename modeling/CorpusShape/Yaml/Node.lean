import CorpusShape.Table
import CorpusShape.Yaml.Layout
import CorpusShape.Yaml.Tag
/-!
# YAML nodes

The tree of a document. Every node has its tag, and an alias stands for a copy of the node that its anchor
names. A node may name itself from within; there the tree ends.
-/
namespace CorpusShape.Yaml

inductive Node where
  | scalar (tag : Tag) (text : String)
  | sequence (tag : Tag) (items : List Node)
  | mapping (tag : Tag) (entries : List (Node × Node))
  /-- A sequence, or a mapping, inside itself. -/
  | within (isMapping : Bool)
deriving Repr, Inhabited

namespace Node

/-- A node that is left out. -/
def empty : Node := .scalar .null ""

/-- What an anchor names: a node, or one that is still being read. -/
inductive Anchored where
  | done (node : Node)
  | reading (isMapping : Bool)
deriving Inhabited

/-- Where the reading of a document is: the tokens ahead, and the anchors so far. -/
structure Place where
  ahead : List Token
  anchors : Table Anchored := []
deriving Inhabited

namespace Place

def next (p : Place) : Place := { p with ahead := p.ahead.tail }

def at_ (p : Place) (t : Token) : Bool := p.ahead.head? == some t

/-- Whether one of the tokens is next. -/
def atAny (p : Place) (ts : List Token) : Bool := p.ahead.head?.any ts.contains

def anchor (p : Place) (name : Option String) (a : Anchored) : Place :=
  match name with
  | some name => { p with anchors := p.anchors.put name a }
  | none => p

end Place

/-- The anchor and the tag in front of a node. -/
def properties (p : Place) : Option String × Option (Option String × String) × Place :=
  match p.ahead with
  | .anchor a :: .tag h s :: rest => (some a, some (h, s), { p with ahead := rest })
  | .tag h s :: .anchor a :: rest => (some a, some (h, s), { p with ahead := rest })
  | .anchor a :: rest => (some a, none, { p with ahead := rest })
  | .tag h s :: rest => (none, some (h, s), { p with ahead := rest })
  | _ => (none, none, p)

/-- The full name of a tag. -/
def tagName (handles : Table String) : Option String × String → Reading String
  | (none, suffix) => .ok suffix
  | (some handle, suffix) =>
    match handles.get? handle with
    | some start => .ok (start ++ suffix)
    | none => .error .malformed

/-- The tag of a sequence or mapping: the one that its shape gives it, unless it has one of its own. -/
def shapeTag (own : Option String) (standard : Tag) : Tag :=
  match own with
  | none => standard
  | some "!" => standard
  | some name => Tag.ofName name

/-- The tag of a scalar. A lone exclamation mark asks for the tag that the text gives. -/
def scalarTag (own : Option String) (plain : Bool) (text : String) : Tag :=
  match own with
  | none => if plain then Tag.ofText text else .str
  | some "!" => Tag.ofText text
  | some name => Tag.ofName name

mutual
/-- A node. Blocks may begin here if `block`, and entries of a sequence without a block of their own if
`loose`. -/
def read (handles : Table String) : Nat → (block loose : Bool) → Place → Reading (Node × Place)
  | 0, _, _, _ => .error .malformed
  | fuel + 1, block, loose, p =>
    match p.ahead with
    | .alias name :: _ =>
      match p.anchors.get? name with
      | some (.done node) => .ok (node, p.next)
      | some (.reading isMapping) => .ok (.within isMapping, p.next)
      | none => .error .malformed
    | _ => do
      let (anchor, tag, p) := properties p
      let own ← match tag with
        | some t => (tagName handles t).map some
        | none => pure none
      if anchor.any p.anchors.contains then .error .malformed
      let sequence (items : Place → Reading (List Node × Place)) : Reading (Node × Place) := do
        let (items, p) ← items (p.anchor anchor (.reading false))
        let node := .sequence (shapeTag own .seq) items
        return (node, p.anchor anchor (.done node))
      let mapping (entries : Place → Reading (List (Node × Node) × Place)) : Reading (Node × Place) := do
        let (entries, p) ← entries (p.anchor anchor (.reading true))
        let node := .mapping (shapeTag own .map) entries
        return (node, p.anchor anchor (.done node))
      match p.ahead with
      | .entry :: _ =>
        if loose then sequence fun p => looseItems handles fuel p
        else if anchor.isSome || own.isSome then emptyScalar anchor own p
        else .error .malformed
      | .scalar text plain :: _ =>
        let node := .scalar (scalarTag own plain text) text
        return (node, p.next.anchor anchor (.done node))
      | .flowSequence :: _ => sequence fun p => flowItems handles fuel true p.next
      | .flowMapping :: _ => mapping fun p => flowEntries handles fuel true p.next
      | .blockSequence :: _ =>
        if block then sequence fun p => blockItems handles fuel p.next
        else if anchor.isSome || own.isSome then emptyScalar anchor own p
        else .error .malformed
      | .blockMapping :: _ =>
        if block then mapping fun p => blockEntries handles fuel p.next
        else if anchor.isSome || own.isSome then emptyScalar anchor own p
        else .error .malformed
      | _ => if anchor.isSome || own.isSome then emptyScalar anchor own p else .error .malformed
where
  emptyScalar (anchor own : Option String) (p : Place) : Reading (Node × Place) :=
    let node := .scalar (scalarTag own true "") ""
    .ok (node, p.anchor anchor (.done node))

/-- The items of a block sequence, up to its end. -/
def blockItems (handles : Table String) : Nat → Place → Reading (List Node × Place)
  | 0, _ => .error .malformed
  | fuel + 1, p =>
    if p.at_ .entry then do
      let (item, p) ← if p.next.atAny [.entry, .blockEnd] then pure (empty, p.next)
        else read handles fuel true false p.next
      let (items, p) ← blockItems handles fuel p
      return (item :: items, p)
    else if p.at_ .blockEnd then .ok ([], p.next)
    else .error .malformed

/-- The items of a sequence that has the column of the mapping around it. -/
def looseItems (handles : Table String) : Nat → Place → Reading (List Node × Place)
  | 0, _ => .error .malformed
  | fuel + 1, p =>
    if p.at_ .entry then do
      let (item, p) ← if p.next.atAny [.entry, .key, .value, .blockEnd] then pure (empty, p.next)
        else read handles fuel true false p.next
      let (items, p) ← looseItems handles fuel p
      return (item :: items, p)
    else .ok ([], p)

/-- The entries of a block mapping, up to its end. -/
def blockEntries (handles : Table String) : Nat → Place → Reading (List (Node × Node) × Place)
  | 0, _ => .error .malformed
  | fuel + 1, p =>
    let ends : List Token := [.key, .value, .blockEnd]
    if p.at_ .key then do
      let (key, p) ← if p.next.atAny ends then pure (empty, p.next) else read handles fuel true true p.next
      let (value, p) ← if p.at_ .value then
          (if p.next.atAny ends then pure (empty, p.next) else read handles fuel true true p.next)
        else pure (empty, p)
      let (entries, p) ← blockEntries handles fuel p
      return ((key, value) :: entries, p)
    else if p.at_ .blockEnd then .ok ([], p.next)
    else .error .malformed

/-- The items of a sequence in brackets. An item may be a pair, which is a mapping of one entry. -/
def flowItems (handles : Table String) : Nat → Bool → Place → Reading (List Node × Place)
  | 0, _, _ => .error .malformed
  | fuel + 1, first, p =>
    if p.at_ .flowSequenceEnd then .ok ([], p.next)
    else do
      let p ← if first then pure p else if p.at_ .flowEntry then pure p.next else .error .malformed
      if p.at_ .flowSequenceEnd then return ([], p.next)
      let (item, p) ← if p.at_ .key then do
          let (key, p) ← if p.next.atAny [.value, .flowEntry, .flowSequenceEnd] then pure (empty, p.next)
            else read handles fuel false false p.next
          let (value, p) ← if p.at_ .value then
              (if p.next.atAny [.flowEntry, .flowSequenceEnd] then pure (empty, p.next)
              else read handles fuel false false p.next)
            else pure (empty, p)
          pure (.mapping .map [(key, value)], p)
        else read handles fuel false false p
      let (items, p) ← flowItems handles fuel false p
      return (item :: items, p)

/-- The entries of a mapping in braces. -/
def flowEntries (handles : Table String) : Nat → Bool → Place → Reading (List (Node × Node) × Place)
  | 0, _, _ => .error .malformed
  | fuel + 1, first, p =>
    if p.at_ .flowMappingEnd then .ok ([], p.next)
    else do
      let p ← if first then pure p else if p.at_ .flowEntry then pure p.next else .error .malformed
      if p.at_ .flowMappingEnd then return ([], p.next)
      let (key, value, p) ← if p.at_ .key then do
          let (key, p) ← if p.next.atAny [.value, .flowEntry, .flowMappingEnd] then pure (empty, p.next)
            else read handles fuel false false p.next
          let (value, p) ← if p.at_ .value then
              (if p.next.atAny [.flowEntry, .flowMappingEnd] then pure (empty, p.next)
              else read handles fuel false false p.next)
            else pure (empty, p)
          pure (key, value, p)
        else do
          let (key, p) ← read handles fuel false false p
          pure (key, empty, p)
      let (entries, p) ← flowEntries handles fuel false p
      return ((key, value) :: entries, p)
end

/-- The handles that a document has without directives. -/
def standardHandles : Table String := [("!", "!"), ("!!", "tag:yaml.org,2002:")]

/-- The directives in front of a document. There may be one version, of the first edition, and each handle
may be given once. -/
def directives : Bool → Table String → List Token → Reading (Table String × List Token)
  | versioned, handles, .directive "YAML" [major, _] :: rest =>
    if versioned || (major.toList.dropWhile (· == '0')) != ['1'] then .error .malformed
    else directives true handles rest
  | versioned, handles, .directive "TAG" [handle, start] :: rest =>
    if handles.contains handle then .error .malformed else directives versioned (handles.put handle start) rest
  | versioned, handles, .directive _ _ :: rest => directives versioned handles rest
  | _, handles, rest => .ok (standardHandles.filter (fun (h, _) => !handles.contains h) ++ handles, rest)

/-- The only document of a sequence of tokens; none if there are no tokens. -/
def ofTokens (ts : List Token) : Reading (Option Node) :=
  let ends (p : Place) : Bool := (p.ahead.dropWhile (· == .documentEnd)).isEmpty
  let fuel := 2 * ts.length + 4
  match ts with
  | [] => .ok none
  | .directive _ _ :: _ => explicit fuel ends
  | .documentStart :: _ => explicit fuel ends
  | _ => do
    let (node, p) ← read standardHandles fuel true false { ahead := ts }
    if ends p then return some node else .error .malformed
where
  explicit (fuel : Nat) (ends : Place → Bool) : Reading (Option Node) := do
    let (handles, rest) ← directives false [] ts
    let p : Place := { ahead := rest }
    if !p.at_ .documentStart then .error .malformed
    let (node, p) ← match p.next.ahead with
      | [] => pure (empty, p.next)
      | .documentEnd :: _ => pure (empty, p.next)
      | .documentStart :: _ => pure (empty, p.next)
      | .directive _ _ :: _ => pure (empty, p.next)
      | _ => read handles fuel true false p.next
    if ends p then return some node else .error .malformed

end Node

end CorpusShape.Yaml
