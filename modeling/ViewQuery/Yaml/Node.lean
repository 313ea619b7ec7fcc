import ViewQuery.Yaml.Token

/-!
The tree of a YAML document.

A text that is broken somewhere has a tree all the same: a broken node stands where reading stopped,
and at the end of every collection around it. So a reader that goes through the tree in order
notices the fault only when it gets there.
-/

set_option autoImplicit false

namespace ViewQuery.Yaml

inductive Node where
  -- a value that was left out is plain and empty
  | scalar (mark : Mark) (text : String) (plain : Bool)
  | list (mark : Mark) (items : List Node)
  | map (mark : Mark) (entries : List (Node × Node))
  | broken (fault : Fault)

namespace Node

def ahead : List Token → Token × List Token
  | [] => (⟨.textEnd, .start, .start⟩, [])
  | t :: rest => (t, rest)

abbrev Parse (α : Type) := α × List Token

def absent (m : Mark) (ts : List Token) : Parse Node := (.scalar m "" true, ts)

def refuse (problem : Problem) (context : Context) (start : Mark) (t : Token) : Fault :=
  match t.kind with
  | .broken f => f
  | _ => ⟨problem, t.start, some (context, start)⟩

def stopNode (f : Fault) : Parse Node := (.broken f, [.brokenBy f])

def stopList (f : Fault) : Parse (List Node) := ([.broken f], [.brokenBy f])

def stopMap (f : Fault) : Parse (List (Node × Node)) := ([(.broken f, .broken f)], [.brokenBy f])

def endsItem : List TokenKind := [.blockEntry, .blockEnd]

def endsBlockValue : List TokenKind := [.key, .value, .blockEnd]

def endsPlainItem : List TokenKind := .blockEntry :: endsBlockValue

def nodeContext (block : Bool) : Context := if block then .blockNode else .flowNode

def nextItem (first : Bool) (close : TokenKind) (ts : List Token) :
    Except Token (Bool × List Token) :=
  let (t, rest) := ahead ts
  if t.kind = close then .ok (false, rest)
  else if first then .ok (true, ts)
  else if t.kind = .flowEntry then
    let (u, after) := ahead rest
    if u.kind = close then .ok (false, after) else .ok (true, rest)
  else .error t

-- A bracket that stands for a map of one entry ends with it.
def pairEntries (entry : Node × Node) (ts : List Token) : List (Node × Node) :=
  match (ahead ts).1.kind with
  | .broken f => [entry, (.broken f, .broken f)]
  | _ => [entry]

mutual

-- No more than four rounds go by without a token being taken.
def node : Nat → (block inMap : Bool) → List Token → Parse Node
  | 0, _, _, ts => absent .start ts
  | n + 1, block, inMap, ts =>
    let (t, rest) := ahead ts
    let refused := stopNode (refuse .nodeExpected (nodeContext block) t.start t)
    match t.kind with
    | .scalar text plain => (.scalar t.start text plain, rest)
    | .flowListStart =>
      let (items, rest) := flowItems n t.start true rest
      (.list t.start items, rest)
    | .flowMapStart =>
      let (entries, rest) := flowEntries n t.start true rest
      (.map t.start entries, rest)
    | .blockListStart =>
      if block then
        let (items, rest) := blockItems n t.start rest
        (.list t.start items, rest)
      else refused
    | .blockMapStart =>
      if block then
        let (entries, rest) := blockEntries n t.start rest
        (.map t.start entries, rest)
      else refused
    | .blockEntry =>
      if inMap then
        let (items, rest) := plainItems n ts
        (.list t.start items, rest)
      else refused
    | _ => refused

def nodeUnless : Nat → List TokenKind → (block inMap : Bool) → Mark → List Token → Parse Node
  | 0, _, _, _, m, ts => absent m ts
  | n + 1, ends, block, inMap, m, ts =>
    if (ahead ts).1.kind ∈ ends then absent m ts else node n block inMap ts

def blockItems : Nat → Mark → List Token → Parse (List Node)
  | 0, _, ts => ([], ts)
  | n + 1, start, ts =>
    let (t, rest) := ahead ts
    match t.kind with
    | .blockEntry =>
      let (item, rest) := nodeUnless n endsItem true false t.stop rest
      let (items, rest) := blockItems n start rest
      (item :: items, rest)
    | .blockEnd => ([], rest)
    | _ => stopList (refuse .itemExpected .blockList start t)

def plainItems : Nat → List Token → Parse (List Node)
  | 0, ts => ([], ts)
  | n + 1, ts =>
    let (t, rest) := ahead ts
    match t.kind with
    | .blockEntry =>
      let (item, rest) := nodeUnless n endsPlainItem true false t.stop rest
      let (items, rest) := plainItems n rest
      (item :: items, rest)
    | .broken f => stopList f
    | _ => ([], ts)

def blockEntries : Nat → Mark → List Token → Parse (List (Node × Node))
  | 0, _, ts => ([], ts)
  | n + 1, start, ts =>
    let (t, rest) := ahead ts
    match t.kind with
    | .key =>
      let (k, rest) := nodeUnless n endsBlockValue true true t.stop rest
      let (v, rest) := blockValue n rest
      let (entries, rest) := blockEntries n start rest
      ((k, v) :: entries, rest)
    | .blockEnd => ([], rest)
    | _ => stopMap (refuse .keyExpected .blockMap start t)

def blockValue : Nat → List Token → Parse Node
  | 0, ts => absent .start ts
  | n + 1, ts =>
    let (t, rest) := ahead ts
    match t.kind with
    | .value => nodeUnless n endsBlockValue true true t.stop rest
    | .broken f => stopNode f
    | _ => absent t.start ts

def flowItems : Nat → Mark → Bool → List Token → Parse (List Node)
  | 0, _, _, ts => ([], ts)
  | n + 1, start, first, ts =>
    match nextItem first .flowListEnd ts with
    | .error t => stopList (refuse .listSeparatorExpected .flowList start t)
    | .ok (false, rest) => ([], rest)
    | .ok (true, ts) =>
      let (t, rest) := ahead ts
      let (item, rest) :=
        if t.kind = .key then
          let (entry, rest) := flowPair n rest
          (.map t.start (pairEntries entry rest), rest)
        else node n false false ts
      let (items, rest) := flowItems n start false rest
      (item :: items, rest)

-- An entry of a map without braces. What stands in the place of its key is passed over if it cannot
-- be a key.
def flowPair : Nat → List Token → Parse (Node × Node)
  | 0, ts => ((.scalar .start "" true, .scalar .start "" true), ts)
  | n + 1, ts =>
    let (t, rest) := ahead ts
    let (k, rest) :=
      if t.kind ∈ [.value, .flowEntry, .flowListEnd] then absent t.stop rest
      else node n false false ts
    let (v, rest) := flowValue n .flowListEnd rest
    ((k, v), rest)

def flowValue : Nat → TokenKind → List Token → Parse Node
  | 0, _, ts => absent .start ts
  | n + 1, close, ts =>
    let (t, rest) := ahead ts
    match t.kind with
    | .value =>
      let (u, _) := ahead rest
      nodeUnless n [.flowEntry, close] false false u.start rest
    | .broken f => stopNode f
    | _ => absent t.start ts

def flowEntries : Nat → Mark → Bool → List Token → Parse (List (Node × Node))
  | 0, _, _, ts => ([], ts)
  | n + 1, start, first, ts =>
    match nextItem first .flowMapEnd ts with
    | .error t => stopMap (refuse .mapSeparatorExpected .flowMap start t)
    | .ok (false, rest) => ([], rest)
    | .ok (true, ts) =>
      let (t, rest) := ahead ts
      let ((k, v), rest) := flowEntry n (t.kind = .key) (if t.kind = .key then rest else ts)
      let (entries, rest) := flowEntries n start false rest
      ((k, v) :: entries, rest)

def flowEntry : Nat → Bool → List Token → Parse (Node × Node)
  | 0, _, ts => ((.scalar .start "" true, .scalar .start "" true), ts)
  | n + 1, marked, ts =>
    if marked then
      let (t, _) := ahead ts
      let (k, rest) := nodeUnless n [.value, .flowEntry, .flowMapEnd] false false t.start ts
      let (v, rest) := flowValue n .flowMapEnd rest
      ((k, v), rest)
    else
      let (k, rest) := node n false false ts
      let (t, _) := ahead rest
      match t.kind with
      | .broken f => ((k, .broken f), rest)
      | _ => ((k, .scalar t.start "" true), rest)

end

def ofTokens (ts : List Token) : Parse Node := node (5 * ts.length + 5) true false ts

end Node

inductive Ending where
  | complete
  | broken (fault : Fault)
  | more
  deriving DecidableEq

structure Document where
  root : Node
  ending : Ending

namespace Document

def endsRoot : List TokenKind := [.documentStart, .documentEnd, .textEnd]

def rootOf (ts : List Token) : Node.Parse Node :=
  let (t, rest) := Node.ahead ts
  match t.kind with
  | .textEnd => Node.absent t.start ts
  | .documentStart =>
    let (u, _) := Node.ahead rest
    if u.kind ∈ endsRoot then Node.absent u.start rest else Node.ofTokens rest
  | _ => Node.ofTokens ts

def isDocumentEnd (t : Token) : Bool := t.kind = .documentEnd

def endingOf (ts : List Token) : Ending :=
  match (Node.ahead ts).1.kind with
  | .broken f => .broken f
  | _ =>
    match (Node.ahead (ts.dropWhile isDocumentEnd)).1.kind with
    | .textEnd => .complete
    | _ => .more

def ofTokens (ts : List Token) : Document :=
  let (root, rest) := rootOf ts
  ⟨root, endingOf rest⟩

end Document

end ViewQuery.Yaml
