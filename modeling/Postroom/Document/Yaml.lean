import Postroom.Document.Yaml.Scalar

namespace Postroom.Document.Yaml

/-- What is left to read, and the values that have a name. -/
structure Cursor where
  rest : List Placed
  anchors : List (String × Tree) := []

abbrev Reading := StateT Cursor Option

def fail {α : Type} : Reading α := fun _ => none

def ahead : Reading (List Placed) := return (← get).rest

def goTo (ps : List Placed) : Reading Unit := modify fun c => { c with rest := ps }

def skipGaps : Nat → Bool → List Placed → List Placed
  | 0, _, ps => ps
  | _ + 1, _, [] => []
  | fuel + 1, lineStart, p :: ps =>
    if p.char == '\n' then skipGaps fuel true ps
    else if p.char == ' ' then skipGaps fuel lineStart ps
    else if p.char == '\t' && !lineStart then skipGaps fuel false ps
    else if p.char == '#' then skipGaps fuel lineStart ((p :: ps).dropWhile (·.char != '\n'))
    else p :: ps

def skip (flow : Bool) : Reading Unit := do
  let ps ← ahead
  if flow then goTo (flowGaps (ps.length + 1) ps)
  else goTo (skipGaps (ps.length + 1) (ps.head?.any (·.column == 0)) ps)
where
  flowGaps : Nat → List Placed → List Placed
    | 0, ps => ps
    | fuel + 1, ps =>
      match ps.dropWhile fun p => isGap p.char with
      | [] => []
      | p :: ps =>
        if p.char == '#' then flowGaps fuel (ps.dropWhile (·.char != '\n')) else p :: ps

def keyName : Tree → Reading String
  | .text s => pure s
  | .int n => pure (toString n)
  | _ => fail

structure Properties where
  anchor : Option String := none
  tag : Option String := none

def isNameChar (c : Char) : Bool := !isGap c && !isFlowMark c

def properties (flow : Bool) : Nat → Properties → Bool → Reading (Properties × Bool)
  | 0, _, _ => fail
  | fuel + 1, props, newLine => do
    match ← ahead with
    | p :: ps =>
      if p.char == '&' || p.char == '!' then
        let name := ps.takeWhile fun p => isNameChar p.char
        let rest := ps.drop name.length
        if p.char == '&' && name.isEmpty then fail
        else
          goTo rest
          skip flow
          let after ← ahead
          let newLine := newLine || after.head?.any fun q => p.line < q.line
          let text := String.ofList (chars name)
          let props := if p.char == '&' then { props with anchor := some text }
            else { props with tag := some ("!" ++ text) }
          properties flow fuel props newLine
      else return (props, newLine)
    | [] => return (props, newLine)

def valueAhead (flow adjacent : Bool) : List Placed → Bool
  | p :: ps =>
    p.char == ':' && (gapAhead ps || (flow && (adjacent || ps.head?.any fun p => isFlowMark p.char)))
  | [] => false

def itemAhead : List Placed → Bool
  | p :: ps => p.char == '-' && gapAhead ps
  | [] => false

def named (props : Properties) (t : Tree) : Reading Tree := do
  match props.anchor with
  | some name => modify fun c => { c with anchors := (name, t) :: c.anchors }
  | none => pure ()
  return t

def resolved (props : Properties) (cs : List Char) : Reading Tree :=
  match (match props.tag with | some tag => taggedValue? tag cs | none => plainValue? cs) with
  | some t => pure t
  | none => fail

mutual

def flowNode : Nat → Reading Tree
  | 0 => fail
  | fuel + 1 => do
    skip true
    let (props, _) ← properties true (fuel + 1) {} false
    match ← ahead with
    | [] => fail
    | p :: ps =>
      if p.char == '[' then goTo ps; named props (← flowItems fuel [])
      else if p.char == '\x7b' then goTo ps; named props (← flowFields fuel [])
      else if p.char == '"' || p.char == '\x27' then
        match quoted? p.char (ps.length + 1) [] ps with
        | some (cs, rest) => goTo rest; named props (.text (.ofList cs))
        | none => fail
      else if p.char == '*' then aliased ps
      else if p.char == ',' || p.char == ']' || p.char == '\x7d' ||
          valueAhead true false (p :: ps) then
        named props .null
      else if p.char == '%' || p.char == '@' || p.char == '\x60' || p.char == '|' ||
          p.char == '>' || boundAhead (p :: ps) then fail
      else
        let (cs, rest) := plain true 0 (ps.length + 2) [] [] (p :: ps)
        if cs.isEmpty then fail
        else
          goTo rest
          named props (← resolved props cs)

def aliased (ps : List Placed) : Reading Tree := do
  let name := ps.takeWhile fun p => isNameChar p.char
  goTo (ps.drop name.length)
  match (← get).anchors.lookup (.ofList (chars name)) with
  | some t => return t
  | none => fail

/-- The items of a sequence in brackets. An item with a value is a mapping of one field. -/
def flowItems : Nat → List Tree → Reading Tree
  | 0, _ => fail
  | fuel + 1, acc => do
    skip true
    match ← ahead with
    | [] => fail
    | p :: ps =>
      if p.char == ']' then goTo ps; return .list acc.reverse
      else if p.char == ',' then fail
      else
        let key ← flowNode fuel
        skip true
        let item ← if valueAhead true true (← ahead) then do
            goTo ((← ahead).drop 1)
            let name ← keyName key
            let t ← flowNode fuel
            pure (.table [(name, t)])
          else pure key
        skip true
        match ← ahead with
        | q :: qs =>
          if q.char == ',' then goTo qs; flowItems fuel (item :: acc)
          else if q.char == ']' then goTo qs; return .list (item :: acc).reverse
          else fail
        | [] => fail

def flowFields : Nat → Fields → Reading Tree
  | 0, _ => fail
  | fuel + 1, acc => do
    skip true
    match ← ahead with
    | [] => fail
    | p :: ps =>
      if p.char == '\x7d' then goTo ps; return .table acc
      else if p.char == ',' then fail
      else
        if p.char == '?' && gapAhead ps then goTo ps
        let name ← keyName (← flowNode fuel)
        skip true
        let t ← if valueAhead true true (← ahead) then do
            goTo ((← ahead).drop 1)
            flowNode fuel
          else pure .null
        skip true
        match ← ahead with
        | q :: qs =>
          if q.char == ',' then goTo qs; flowFields fuel (acc.put name t)
          else if q.char == '\x7d' then goTo qs; return .table (acc.put name t)
          else fail
        | [] => fail

end

/-- A scalar or a node in brackets: what may be a key if a colon follows on its line. -/
def leaf (parent : Int) (props : Properties) : Reading Tree := do
  match ← ahead with
  | [] => fail
  | p :: ps =>
    if p.char == '[' || p.char == '\x7b' then named props (← flowNode (2 * ps.length + 4))
    else if p.char == '"' || p.char == '\x27' then
      match quoted? p.char (ps.length + 1) [] ps with
      | some (cs, rest) => goTo rest; named props (.text (.ofList cs))
      | none => fail
    else if p.char == '*' then aliased ps
    else if p.char == '%' || p.char == '@' || p.char == '\x60' || isFlowMark p.char ||
        valueAhead false false (p :: ps) || (p.char == '?' && gapAhead ps) then fail
    else
      let (cs, rest) := plain false (parent + 1).toNat (ps.length + 2) [] [] (p :: ps)
      goTo rest
      named props (← resolved props cs)

mutual

/-- A node below a block with an indentation of `parent`. A block may start here if `free`. -/
def node : Nat → Int → Bool → Reading Tree
  | 0, _, _ => fail
  | fuel + 1, parent, free => do
    skip false
    let (props, newLine) ← properties false (fuel + 1) {} false
    let free := free || newLine
    let ps ← ahead
    match ps with
    | [] => named props (← absent props)
    | p :: rest =>
      if boundAhead ps || (p.column : Int) ≤ parent then
        if newLine && itemAhead ps && (p.column : Int) == parent then
          named props (← items fuel p.column [])
        else named props (← absent props)
      else if itemAhead ps then
        if free then named props (← items fuel p.column []) else fail
      else if p.char == '|' || p.char == '>' then
        match block? (p.char == '|') parent rest with
        | some (cs, rest) => goTo rest; named props (.text (.ofList cs))
        | none => fail
      else if p.char == '?' && gapAhead rest then
        if free then named props (← fields fuel p.column []) else fail
      else
        let before ← get
        let t ← leaf parent props
        if ← keyEnds p then
          if free then
            let inner := if newLine then props else {}
            set before
            named inner (← fields fuel p.column [])
          else fail
        else return t
where
  absent (props : Properties) : Reading Tree :=
    if props.anchor.isNone && props.tag.isNone then pure .null else resolved props []

def keyEnds (p : Placed) : Reading Bool := do
  let rest := (← ahead).dropWhile fun p => isSpace p.char
  return valueAhead false false rest && rest.head?.any (·.line == p.line)

def items : Nat → Nat → List Tree → Reading Tree
  | 0, _, _ => fail
  | fuel + 1, column, acc => do
    skip false
    match ← ahead with
    | p :: ps =>
      if p.column == column && itemAhead (p :: ps) && !boundAhead (p :: ps) then
        goTo ps
        let t ← node fuel column true
        items fuel column (t :: acc)
      else return .list acc.reverse
    | [] => return .list acc.reverse

def fieldValue : Nat → Nat → Nat → Reading Tree
  | 0, _, _ => fail
  | fuel + 1, line, column => do
    skip false
    match ← ahead with
    | q :: qs =>
      if q.line == line then node fuel column false
      else if q.column == column && itemAhead (q :: qs) && !boundAhead (q :: qs) then
        items fuel column []
      else node fuel column true
    | [] => return .null

def fields : Nat → Nat → Fields → Reading Tree
  | 0, _, _ => fail
  | fuel + 1, column, acc => do
    skip false
    match ← ahead with
    | p :: ps =>
      if p.column < column || boundAhead (p :: ps) then return .table acc
      else if column < p.column then fail
      else if p.char == '?' && gapAhead ps then
        goTo ps
        let name ← keyName (← node fuel column true)
        skip false
        match ← ahead with
        | q :: qs =>
          if q.column == column && valueAhead false false (q :: qs) then
            goTo qs
            fields fuel column (acc.put name (← fieldValue fuel q.line column))
          else fields fuel column (acc.put name .null)
        | [] => fields fuel column (acc.put name .null)
      else
        let (props, _) ← properties false (fuel + 1) {} false
        let name ← keyName (← leaf column props)
        if ← keyEnds p then
          goTo (((← ahead).dropWhile fun p => isSpace p.char).drop 1)
          fields fuel column (acc.put name (← fieldValue fuel p.line column))
        else fail
    | [] => return .table acc

end

def opening : Nat → Reading Bool
  | 0 => fail
  | fuel + 1 => do
    skip false
    match ← ahead with
    | p :: ps =>
      if p.char == '%' && p.column == 0 then
        goTo (ps.dropWhile (·.char != '\n'))
        opening fuel
      else if markerAhead '-' (p :: ps) then
        goTo (ps.drop 2)
        return true
      else return false
    | [] => return false

def documents : Nat → List Tree → Reading (List Tree)
  | 0, _ => fail
  | fuel + 1, acc => do
    let opened ← opening (fuel + 1)
    match ← ahead with
    | [] => return if opened then (.null :: acc).reverse else acc.reverse
    | ps =>
      if !opened && markerAhead '.' ps then
        goTo (ps.drop 3)
        documents fuel acc
      else
        let line := (ps.head?.map Placed.line).getD 0
        skip false
        let sameLine := opened && (← ahead).head?.any (·.line == line)
        modify fun c => { c with anchors := [] }
        let t ← node (4 * ps.length + 8) (-1) (!sameLine)
        skip false
        let rest ← ahead
        if rest.isEmpty then return (t :: acc).reverse
        else if markerAhead '.' rest then
          goTo (rest.drop 3)
          documents fuel (t :: acc)
        else if markerAhead '-' rest then documents fuel (t :: acc)
        else fail

/-- The document of a YAML text, which holds at most one; an empty text is an empty table. -/
def read? (text : String) : Option Tree :=
  let ps := placesFrom 0 0 text.toList
  match (documents (ps.length + 2) []).run { rest := ps } with
  | some ([], _) => some (.table [])
  | some ([t], _) => some t
  | _ => none

end Postroom.Document.Yaml
