import ShaderConversion.Shader.Preprocessing
import ShaderConversion.Shader.Statement

namespace ShaderConversion.Shader

structure Splitting where
  items : List (List Token)
  current : List Token
  depth : Nat
  isFunction : Bool

namespace Splitting

def close (s : Splitting) : Splitting := ⟨s.current.reverse :: s.items, [], 0, false⟩

def step (s : Splitting) (token : Token) : Splitting :=
  let next : Splitting := { s with current := token :: s.current }
  match token with
  | .sign [';'] => if s.depth = 0 then s.close else next
  | .sign ['\x7b'] =>
    { next with
      depth := s.depth + 1
      isFunction := if s.depth = 0 then s.current.head? == some (.sign [')']) else s.isFunction }
  | .sign ['\x7d'] =>
    let next := { next with depth := s.depth - 1 }
    if s.depth = 1 && s.isFunction then next.close else next
  | _ => next

end Splitting

def splitDeclarations? (tokens : List Token) : Option (List (List Token)) :=
  let s := tokens.foldl Splitting.step ⟨[], [], 0, false⟩
  if s.current.isEmpty then some s.items.reverse else none

def isOpening (token : Token) : Bool := token = .sign ['('] ∨ token = .sign ['[']

def isClosing (token : Token) : Bool := token = .sign [')'] ∨ token = .sign [']']

def betweenCommas (tokens : List Token) : List (List Token) :=
  let step (read : List (List Token) × List Token × Nat) (token : Token) :=
    let (parts, part, depth) := read
    if depth = 0 ∧ token = .sign [','] then (part.reverse :: parts, [], 0)
    else if isOpening token then (parts, token :: part, depth + 1)
    else if isClosing token then (parts, token :: part, depth - 1)
    else (parts, token :: part, depth)
  let (parts, part, _) := tokens.foldl step ([], [], 0)
  (part.reverse :: parts).reverse

-- What stands before the bracket that ends a group, and what stands behind it. The
-- group has `inside` in front, in reverse, and `depth` brackets open.
def cutGroup? (depth : Nat) (inside : List Token) : List Token → Option (List Token × List Token)
  | [] => none
  | token :: rest =>
    if isOpening token then cutGroup? (depth + 1) (token :: inside) rest
    else if isClosing token then
      match depth with
      | 0 => some (inside.reverse, rest)
      | depth + 1 => cutGroup? depth (token :: inside) rest
    else cutGroup? depth (token :: inside) rest

theorem cutGroup_shorter (depth : Nat) (inside tokens : List Token) (group rest : List Token)
    (cut : cutGroup? depth inside tokens = some (group, rest)) : rest.length < tokens.length := by
  fun_induction cutGroup? depth inside tokens with
  | case1 => simp at cut
  | case2 _ _ _ _ _ ih => exact Nat.lt_succ_of_lt (ih cut)
  | case3 _ token tail =>
    simp only [Option.some.injEq, Prod.mk.injEq] at cut
    simp [← cut.2]
  | case4 _ _ _ _ _ _ ih => exact Nat.lt_succ_of_lt (ih cut)
  | case5 _ _ _ _ _ _ ih => exact Nat.lt_succ_of_lt (ih cut)

structure Qualifiers where
  layout : List (Text × Option UInt32)
  words : List Text

namespace Qualifiers

def layoutEntry? : List Token → Option (Text × Option UInt32)
  | [.name name] => some (name, none)
  | .name name :: .sign ['='] :: value => (wordOf? value).map fun word => (name, some word)
  | _ => none

def insert (q : Qualifiers) (entry : Text × Option UInt32) : Qualifiers :=
  { q with layout := entry :: q.layout.filter fun old => old.1 != entry.1 }

def storages : List (String × Storage) :=
  [("in", .input), ("out", .output), ("uniform", .uniform), ("buffer", .buffer)]

def storageWords : List Text := storages.map fun entry => entry.1.toList

def precisions : List Text := ["highp", "mediump", "lowp"].map String.toList

def interpolations : List Text :=
  ["flat", "smooth", "noperspective", "centroid", "sample"].map String.toList

def accesses : List Text := ["readonly", "writeonly", "restrict"].map String.toList

def isWord (name : Text) : Bool :=
  storageWords.contains name || precisions.contains name || interpolations.contains name ||
    accesses.contains name

def storage? (q : Qualifiers) : Option Storage :=
  match q.words.filter storageWords.contains with
  | [] => some .plain
  | [word] => storages.lookup (String.ofList word)
  | _ => none

def value? (q : Qualifiers) (name : String) : Option UInt32 := (q.layout.lookup name.toList).join

-- Whether the members of a block start at multiples of 16 bytes. The last layout
-- that is named counts; a buffer has the other one unless it says so.
def isSpacious (q : Qualifiers) (storage : Storage) : Bool :=
  let layouts := (q.layout.map Prod.fst).filter fun name =>
    name == "std140".toList || name == "std430".toList
  match layouts with
  | [] => storage != .buffer
  | name :: _ => name == "std140".toList

def saysOnly (q : Qualifiers) (valued bare : List String) : Bool :=
  q.layout.all fun (name, value?) =>
    (if value?.isSome then valued else bare).any fun word => name == word.toList

def usesOnly (q : Qualifiers) (words : List Text) : Bool :=
  q.words.all fun word => storageWords.contains word || precisions.contains word || words.contains word

def spent (q : Qualifiers) : Qualifiers := ⟨[], q.words.filter storageWords.contains⟩

end Qualifiers

def qualifiers? (q : Qualifiers) (tokens : List Token) : Option (Qualifiers × List Token) :=
  match tokens with
  | .name name :: rest =>
    if name = "layout".toList then
      match rest with
      | .sign ['('] :: inside =>
        match _cut : cutGroup? 0 [] inside with
        | none => none
        | some (group, rest) => do
          let entries ← (betweenCommas group).mapM Qualifiers.layoutEntry?
          qualifiers? (entries.foldl Qualifiers.insert q) rest
      | _ => none
    else if Qualifiers.isWord name then qualifiers? { q with words := name :: q.words } rest
    else some (q, tokens)
  | tokens => some (q, tokens)
termination_by tokens.length
decreasing_by
  · have := cutGroup_shorter _ _ _ _ _ _cut
    simp only [List.length_cons]
    omega
  · simp

def extents? (tokens : List Token) : Option (List Extent × List Token) :=
  match tokens with
  | .sign ['['] :: inside =>
    match _cut : cutGroup? 0 [] inside with
    | none => none
    | some (group, rest) => do
      let extent ←
        if group.isEmpty then some Extent.dynamic
        else do
          let count ← wordOf? group
          if count = 0 then none else some (Extent.fixed count)
      let (extents, rest) ← extents? rest
      return (extent :: extents, rest)
  | tokens => some ([], tokens)
termination_by tokens.length
decreasing_by
  have := cutGroup_shorter _ _ _ _ _ _cut
  simp only [List.length_cons]
  omega

def dataType? : List Token → Option (DataType × List Token)
  | .name name :: rest => do
    let base ← BaseType.ofName? name
    let (extents, rest) ← extents? rest
    return (⟨base, extents⟩, rest)
  | _ => none

def isVariableName (name : Text) : Bool :=
  (BaseType.ofName? name).isNone && !Qualifiers.isWord name && !reserved.contains name

def declarator? (type : DataType) : List Token → Option (Text × DataType)
  | .name name :: rest => do
    match isVariableName name, ← extents? rest with
    | true, (extents, []) => some (name, ⟨type.base, type.extents ++ extents⟩)
    | _, _ => none
  | _ => none

def declarators? (type : DataType) : List (List Token) → Option (List (Text × DataType))
  | [] => some []
  | tokens :: rest => do
    let (name, type) ← declarator? type tokens
    return (name, type) :: (← declarators? type rest)

def member? (tokens : List Token) : Option (Text × DataType) := do
  let (type, rest) ← dataType? tokens
  declarator? type rest

def members? (tokens : List Token) : Option (List (Text × DataType)) :=
  match (tokens.splitOnP (· == .sign [';'])).reverse with
  | [] :: member :: members => (member :: members).reverse.mapM member?
  | _ => none

-- What reading a source has come to: everything declared so far, the names that
-- stand for it, and whether the function that a shader starts with was met.
structure Reading where
  interface : Interface
  scope : Scope
  hasMain : Bool

namespace Reading

def empty : Reading := ⟨⟨[], [], [], ⟨none, none, none⟩, true⟩, [], false⟩

def addVariable (r : Reading) (v : Variable) : Reading :=
  let named := v.members.map fun (name, type) => (name, (⟨v.storage, type⟩ : Symbol))
  let own := v.name?.toList.map fun name => (name, (⟨v.storage, v.type⟩ : Symbol))
  { r with
    interface := { r.interface with declared := v :: r.interface.declared }
    scope := named ++ own ++ r.scope }

def addGroup (r : Reading) (q : Qualifiers) : Reading :=
  let old := r.interface.group
  let group : GroupRequest :=
    ⟨(q.value? "local_size_x").or old.x?, (q.value? "local_size_y").or old.y?,
      (q.value? "local_size_z").or old.z?⟩
  { r with interface := { r.interface with group := group } }

def isQualified (q : Qualifiers) (storage : Storage) (type : DataType) : Bool :=
  let isImage := type.base = .image && type.extents.isEmpty
  let isSampler := type.base = .sampler && type.extents.isEmpty
  match storage with
  | .input | .output => q.saysOnly ["location"] [] && q.usesOnly Qualifiers.interpolations
  | .uniform =>
    let layouts := if type.base = .block then ["std140", "std430"] else []
    if (q.layout.lookup "push_constant".toList).isSome then
      q.saysOnly [] ("push_constant" :: layouts) && q.usesOnly [] && !isImage && !isSampler
    else
      q.saysOnly ["binding", "set"] layouts && (q.value? "binding").isSome &&
        q.usesOnly (if isImage then Qualifiers.accesses else [])
  | .buffer =>
    q.saysOnly ["binding", "set"] ["std140", "std430"] && (q.value? "binding").isSome &&
      q.usesOnly Qualifiers.accesses
  | .plain => q.saysOnly [] [] && q.usesOnly []

def declare? (r : Reading) (q : Qualifiers) (name? : Option Text) (type : DataType)
    (members : List (Text × DataType)) : Option Reading := do
  let storage ← q.storage?
  if isQualified q storage type then
    some (r.addVariable ⟨name?, storage, type, (q.value? "location").getD 0, members⟩)
  else none

-- A block, perhaps under a name. Blocks are uniforms or buffers. Columns of two
-- numbers do not start at multiples of 16 bytes.
def block? (r : Reading) (q : Qualifiers) (tokens : List Token) : Option Reading := do
  let members ← members? (tokens.takeWhile (· != .sign ['\x7d']))
  let storage ← q.storage?
  if (storage != .uniform && storage != .buffer) ||
      (q.isSpacious storage && members.any fun member => member.2.base.hasNarrowColumns) then none
  else
    match tokens.dropWhile (· != .sign ['\x7d']) with
    | [] => none
    | [_] => r.declare? q none ⟨.block, []⟩ members
    | _ :: named => do
      let (name, type) ← declarator? ⟨.block, []⟩ named
      r.declare? q (some name) type members

def isPrecision (tokens : List Token) : Bool :=
  match tokens with
  | [.name word, .name precision, .name type] =>
    word = "precision".toList ∧ Qualifiers.precisions.contains precision ∧
      (type = "float".toList ∨ type = "int".toList)
  | _ => false

def group? (r : Reading) (q : Qualifiers) : Option Reading :=
  if q.storage?.isSome && q.usesOnly [] &&
      q.saysOnly ["local_size_x", "local_size_y", "local_size_z"] ["early_fragment_tests"] then
    some (r.addGroup q)
  else none

def variables? (r : Reading) (q : Qualifiers) : List (Text × DataType) → Option Reading
  | [] => some r
  | (name, type) :: rest => do (← r.declare? q (some name) type []).variables? q.spent rest

def function? (r : Reading) (result name : Text) (parameters body : List Token) : Option Reading :=
  if name = "main".toList ∧ (parameters = [] ∨ parameters = [.name "void".toList]) then
    if r.hasMain then none
    else do
      let b ← readBody? r.scope body
      let i := r.interface
      some { r with
        interface := { i with
          builtIns := b.builtIns
          stages := b.stages
          isTyped := i.isTyped && b.isTyped && result = "void".toList }
        hasMain := true }
  else some r

def qualified? (r : Reading) (q : Qualifiers) (tokens : List Token) : Option Reading :=
  match tokens with
  | [] => r.group? q
  | .name _ :: .sign ['\x7b'] :: rest => r.block? q rest
  | .name result :: .name name :: .sign ['('] :: rest =>
    if q.storage?.isSome && (result = "void".toList ∨ (BaseType.ofName? result).isSome) then
      match cutGroup? 0 [] rest with
      | some (_, []) => some r
      | some (parameters, .sign ['\x7b'] :: body) => r.function? result name parameters body.dropLast
      | _ => none
    else none
  | tokens => do
    let (type, rest) ← dataType? tokens
    if rest.isEmpty then some r
    else r.variables? q (← declarators? type (betweenCommas rest))

def step? (version? : Option UInt64) (r : Reading) (item : List Token) : Option Reading :=
  if item.isEmpty then if version? = some 460 then some r else none
  else if isPrecision item then some r
  else do
    let (q, rest) ← qualifiers? ⟨[], []⟩ item
    r.qualified? q rest

end Reading

def Interface.ofSource? (pairs : List (Text × Text)) (source : Text) : Option Interface := do
  let p ← Preprocessing.run? (← Macros.ofPairs? pairs) source
  let r ← (← splitDeclarations? p.tokens).foldlM (Reading.step? p.version?) Reading.empty
  if r.hasMain then some { r.interface with declared := r.interface.declared.reverse } else none

end ShaderConversion.Shader
