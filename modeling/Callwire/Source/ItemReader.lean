import Callwire.Source.StatementReader

/-!
# Reading items

Declarations of all kinds, in any grammar. Some are accepted although they lack
a part or have one too many; such a declaration is kept as it is written.
-/

set_option autoImplicit false

namespace Callwire.Source.Reader

/-! ## Functions -/

def receiver (g : Grammar) (marks : List Mark) : Reader Param := do
  let isRef ← whenAhead (aheadOp "&") (do markOp "&"; tryLife)
  let isMut ← tryWord "mut"
  word "self"
  let t ← if isRef.isNone && aheadOp ":" (← get) then do
      markOp ":"
      pure (some (← g.ty true))
    else pure none
  return .receiver marks isRef isMut t

def param (g : Grammar) : Reader Param := do
  let marks ← marks g
  if ← tryOp "..." then return .dots marks none
  let ts ← get
  match (receiver g marks).run ts with
  | some (p, rest) => do set rest; return p
  | none =>
    if aheadName ts && aheadSecond (aheadOp "<") ts then return .typed marks .wild (← g.ty true)
    let p ← g.single
    markOp ":"
    if ← tryOp "..." then return .dots marks (some p)
    return .typed marks p (← g.ty true)

def isDots : Param → Bool
  | .dots .. => true
  | _ => false

def paramsUpTo (g : Grammar) : Nat → Bool → Reader (List Param × Bool)
  | 0, _ => failure
  | fuel + 1, isFirst => do
    if ← isDone then return ([], !isFirst)
    let p ← param g
    guard (isFirst || !p.isReceiver)
    if ← isDone then return ([p], false)
    markOp ","
    if isDots p then
      guard (← isDone)
      return ([p], true)
    let (rest, trailing) ← paramsUpTo g fuel false
    return (p :: rest, trailing)

def params (g : Grammar) (inner : Tokens) : Reader (List Param × Bool) :=
  inside (paramsUpTo g (inner.length + 1) true) inner

def signature (g : Grammar) : Reader Signature := do
  let isConst ← tryWord "const"
  let isAsync ← tryWord "async"
  let isUnsafe ← tryWord "unsafe"
  let convention ← convention
  word "fn"
  let n ← name
  let generics ← generics g
  let (params, trailing) ← params g (← group .round)
  let out ← output g true
  return ⟨isConst, isAsync, isUnsafe, convention, n, generics, params, trailing, out, ← demands g⟩

def aheadSignature (ts : Tokens) : Bool :=
  let front : Reader Unit := do
    discard (tryWord "const")
    discard (tryWord "async")
    discard (tryWord "unsafe")
    discard convention
  match front.run ts with
  | some (_, rest) => aheadWord "fn" rest
  | none => false

/-! ## Parts of types -/

def namedField (g : Grammar) : Reader Field := do
  let marks ← marks g
  let visibility ← visibility
  let n ← if aheadWord "_" (← get) then anyName else name
  markOp ":"
  return ⟨marks, visibility, some n, ← g.ty true⟩

def plainField (g : Grammar) : Reader Field := do
  let marks ← marks g
  let visibility ← visibility
  return ⟨marks, visibility, none, ← g.ty true⟩

def namedFields (g : Grammar) : Reader Fields := do
  let (fields, trailing) ← inside (commas (namedField g) List.isEmpty) (← group .curly)
  return .named fields trailing

def plainFields (g : Grammar) : Reader Fields := do
  let (fields, trailing) ← inside (commas (plainField g) List.isEmpty) (← group .round)
  return .plain fields trailing

def variant (g : Grammar) : Reader Variant := do
  let marks ← marks g
  discard visibility
  let n ← name
  let ts ← get
  let fields ← if aheadGroup .curly ts then namedFields g
    else if aheadGroup .round ts then plainFields g
    else pure .unit
  if ← tryOp "=" then return ⟨marks, n, fields, some (← g.expr true)⟩
  return ⟨marks, n, fields, none⟩

def recordRest (g : Grammar) : Reader (Demands × Fields) := do
  let isWhere := aheadWord "where" (← get)
  let before ← demands g
  let ts ← get
  if aheadGroup .curly ts then return (before, ← namedFields g)
  if ← tryOp ";" then return (before, .unit)
  guard !isWhere
  let fields ← plainFields g
  let after ← demands g
  markOp ";"
  return (after, fields)

def typeKind (g : Grammar) : Reader ItemKind := do
  if ← tryWord "struct" then
    let n ← name
    let generics ← generics g
    let (demands, fields) ← recordRest g
    return .record n generics demands fields
  if ← tryWord "enum" then
    let n ← name
    let generics ← generics g
    let demands ← demands g
    let (variants, trailing) ← inside (commas (variant g) List.isEmpty) (← group .curly)
    return .enumeration n generics demands variants trailing
  word "union"
  let n ← name
  let generics ← generics g
  let demands ← demands g
  return .union n generics demands (← namedFields g)

/-! ## Members -/

def macroMember (marks : List Mark) : Reader Member := do
  let m ← macroRest (← modulePath)
  if m.bracket ≠ .curly then markOp ";"
  return .macroCall marks m (m.bracket ≠ .curly)

def aheadModulePath (ts : Tokens) : Bool :=
  aheadName ts || aheadOp "::" ts || ["self", "super", "crate"].any (aheadWord · ts)

structure ConstParts where
  name : String
  generics : Generics
  isGeneric : Bool
  t : Ty
  value : Option Expr
  demands : Demands
  isDemanding : Bool

def ConstParts.isPlain (c : ConstParts) : Bool := !c.isGeneric && !c.isDemanding

def constParts (g : Grammar) : Reader ConstParts := do
  word "const"
  let n ← if aheadWord "_" (← get) then anyName else name
  let isGeneric := aheadOp "<" (← get)
  let generics ← generics g
  markOp ":"
  let t ← g.ty true
  let value ← whenAhead (aheadOp "=") (do markOp "="; g.expr true)
  let isDemanding := aheadWord "where" (← get)
  let demands ← demands g
  markOp ";"
  return ⟨n, generics, isGeneric, t, value, demands, isDemanding⟩

structure AliasParts where
  name : String
  generics : Generics
  hasColon : Bool
  bounds : List Bound
  trailing : Bool
  t : Option Ty
  demands : Demands

def aliasParts (g : Grammar) (isBefore isAfter : Bool) : Reader AliasParts := do
  word "type"
  let n ← name
  let generics ← generics g
  let hasColon ← tryOp ":"
  let (bounds, trailing) ← if hasColon then
      boundsUntil g (fun ts => aheadWord "where" ts || stopsAt ["=", ";"] ts) (← stepsAhead)
    else pure ([], false)
  let isWhere := isBefore && aheadWord "where" (← get)
  let before ← if isBefore then demands g else pure .none
  let t ← whenAhead (aheadOp "=") (do markOp "="; g.ty true)
  let after ← if isAfter && !isWhere then demands g else pure .none
  markOp ";"
  return ⟨n, generics, hasColon, bounds, trailing, t, if isWhere then before else after⟩

def defaultWord : Reader Bool := do
  if aheadWord "default" (← get) && !aheadSecond (aheadOp "!") (← get) then tryWord "default"
  else return false

def traitMember (g : Grammar) : Reader Member := do
  let before ← get
  let outer ← marks g
  let vis ← visibility
  let isDefault ← defaultWord
  let ts ← get
  let isBare := !isDefault && (vis matches .inherited)
  let asWritten (isPlain : Bool) (m : Member) : Reader Member := do
    if isBare && isPlain then return m else return .verbatim (← since before)
  if aheadSignature ts then
    let s ← signature g
    if ← tryOp ";" then asWritten true (.function outer .inherited false s none)
    else asWritten true (.function outer .inherited false s (some (← body g)))
  else if aheadWord "const" ts then
    let c ← constParts g
    asWritten c.isPlain (.const outer .inherited false c.name c.t c.value)
  else if aheadWord "type" ts then
    let a ← aliasParts g false true
    asWritten true
      (.type outer .inherited false a.name a.generics a.bounds a.trailing a.t a.demands)
  else
    guard (isBare && aheadModulePath ts)
    macroMember outer

def implMember (g : Grammar) : Reader Member := do
  let before ← get
  let outer ← marks g
  let vis ← visibility
  let isDefault ← defaultWord
  let ts ← get
  if aheadSignature ts then
    let s ← signature g
    if ← tryOp ";" then return .verbatim (← since before)
    return .function outer vis isDefault s (some (← body g))
  else if aheadWord "const" ts then
    let c ← constParts g
    if c.isPlain && c.value.isSome then return .const outer vis isDefault c.name c.t c.value
    return .verbatim (← since before)
  else if aheadWord "type" ts then
    let a ← aliasParts g false true
    if a.hasColon || a.t.isNone then return .verbatim (← since before)
    return .type outer vis isDefault a.name a.generics [] false a.t a.demands
  else
    guard (!isDefault && (vis matches .inherited) && aheadModulePath ts)
    macroMember outer

def dropSafe : Reader Bool := do
  let (front, rest) := (← get).span fun t => aheadWord "const" [t] || aheadWord "async" [t]
  let isThere := aheadWord "safe" rest &&
    ["extern", "fn", "static"].any fun w => aheadSecond (aheadWord w) rest
  if isThere then set (front ++ rest.drop 1)
  return isThere

def foreignMember (g : Grammar) : Reader Member := do
  let before ← get
  let outer ← marks g
  let vis ← visibility
  let isSafe ← dropSafe
  let ts ← get
  if aheadSignature ts then
    let s ← signature g
    let isPlain ← tryOp ";"
    if !isPlain then discard (body g)
    if isSafe || !isPlain then return .verbatim (← since before)
    return .function outer vis false s none
  else if aheadWord "static" ts ||
      (!isSafe && aheadWord "unsafe" ts && aheadSecond (aheadWord "static") ts) then
    let isUnsafe ← tryWord "unsafe"
    word "static"
    let isMut ← tryWord "mut"
    let n ← name
    markOp ":"
    let t ← g.ty true
    let hasValue ← tryOp "="
    if hasValue then discard (g.expr true)
    markOp ";"
    if isSafe || isUnsafe || hasValue then return .verbatim (← since before)
    return .static outer vis isMut n t
  else if aheadWord "type" ts then
    let a ← aliasParts g true true
    if a.hasColon || a.t.isSome then return .verbatim (← since before)
    return .type outer vis false a.name a.generics [] false none a.demands
  else
    guard ((vis matches .inherited) && aheadModulePath ts)
    macroMember outer

def upToEnd {α : Type} (item : Reader α) : Reader (List α) := do
  many item ((← get).length + 1)

def members (g : Grammar) (member : Reader Member) : Reader (List Mark × List Member) := do
  inside (do return (← innerMarks g, ← upToEnd member)) (← group .curly)

/-! ## Items -/

def superTraits (g : Grammar) (stop : Tokens → Bool) : Nat → Reader (List Bound × Bool)
  | 0 => failure
  | fuel + 1 => do
    if stop (← get) then return ([], true)
    let b ← anyBound g false true
    if stop (← get) then return ([b], false)
    markOp "+"
    let (rest, trailing) ← superTraits g stop fuel
    return (b :: rest, trailing)

def traitRest (g : Grammar) (outer : List Mark) (vis : Visibility) (isUnsafe isAuto : Bool)
    (n : String) (generics : Generics) : Reader Trait := do
  let (supers, trailing) ← if ← tryOp ":" then
      superTraits g (fun ts => aheadWord "where" ts || aheadGroup .curly ts)
        ((← get).length + 1)
    else pure ([], false)
  let demands ← demands g
  let (inner, items) ← members g (traitMember g)
  return ⟨outer, vis, isUnsafe, isAuto, n, generics, supers, trailing, demands, inner, items⟩

def traitAlias (g : Grammar) (n : String) (generics : Generics) : Reader ItemKind := do
  let (bounds, trailing) ←
    superTraits g (fun ts => aheadWord "where" ts || aheadOp ";" ts) ((← get).length + 1)
  let demands ← demands g
  markOp ";"
  return .traitAlias n generics bounds trailing demands

def traitOrAlias (g : Grammar) (outer : List Mark) (vis : Visibility) : Reader Item := do
  let isUnsafe ← tryWord "unsafe"
  let isAuto ← tryWord "auto"
  word "trait"
  let n ← name
  let generics ← generics g
  if !isUnsafe && !isAuto && aheadOp "=" (← get) then
    markOp "="
    return .plain outer vis (← traitAlias g n generics)
  return .trait (← traitRest g outer vis isUnsafe isAuto n generics)

def useTree (mayBeRooted : Bool) : Nat → Reader (Option UseTree)
  | 0 => failure
  | fuel + 1 => do
    if ← tryOp "*" then return some .glob
    match ← get with
    | .group .curly inner :: rest => do
      set rest
      let one : Reader (Option UseTree) := do
        let isRooted ← if mayBeRooted then tryOp "::" else pure false
        let t ← useTree (mayBeRooted && !isRooted) fuel
        return if isRooted then none else t
      let (trees, trailing) ← inside (commas one List.isEmpty) inner
      return (trees.mapM id).map fun ts => .group ts trailing
    | ts =>
      guard (aheadName ts || ["self", "super", "crate", "try"].any (aheadWord · ts))
      let n ← anyName
      if ← tryOp "::" then return (← useTree false fuel).map (.path n)
      if ← tryWord "as" then
        let m ← if aheadWord "_" (← get) then anyName else name
        return some (.renamed n m)
      return some (.name n)

def useKind : Reader (Option ItemKind) := do
  word "use"
  let isAbsolute ← tryOp "::"
  let t ← useTree (!isAbsolute) (sizeOfTokens (← get) + 1)
  markOp ";"
  return t.map (.use isAbsolute)

def newName : Reader String := do if aheadWord "_" (← get) then anyName else name

def externCrate : Reader ItemKind := do
  word "extern"
  word "crate"
  let n ← if aheadWord "self" (← get) then anyName else name
  let other ← whenAhead (aheadWord "as") (do word "as"; newName)
  markOp ";"
  return .externCrate n other

def aheadGenerics (ts : Tokens) : Bool :=
  let after (ts : Tokens) : Bool :=
    stopsAt [">", ",", "="] ts || (aheadOp ":" ts && !aheadOp "::" ts)
  aheadOp "<" ts &&
    (aheadSecond (fun ts => aheadOp ">" ts || aheadOp "#" ts || aheadWord "const" ts) ts ||
      (aheadSecond aheadLife ts && after (ts.drop 3)) ||
      (aheadSecond aheadName ts && after (ts.drop 2)))

def implementation (g : Grammar) (isBare : Bool) : Reader (Option ItemKind) := do
  let isDefault ← tryWord "default"
  let isUnsafe ← tryWord "unsafe"
  word "impl"
  let generics ← if aheadGenerics (← get) then generics g else pure .none
  let ts ← get
  let isConst := aheadWord "const" ts || (aheadOp "?" ts && aheadSecond (aheadWord "const") ts)
  if isConst then
    discard (tryOp "?")
    word "const"
  let ts ← get
  let isNegative := aheadOp "!" ts && !aheadSecond (aheadGroup .curly) ts
  if isNegative then markOp "!"
  let before ← get
  let first ← g.ty true
  let firstRow ← since before
  let isFor ← tryWord "for"
  let self ← if isFor then g.ty true
    else pure (if isNegative then .verbatim (op "!" ++ firstRow) else first)
  let demands ← demands g
  let (inner, items) ← members g (implMember g)
  if !isBare || isConst then return none
  match isFor, first with
  | true, .path start segs =>
    return some (.implementation isDefault isUnsafe generics (some ⟨isNegative, start, segs⟩) self
      demands inner items)
  | true, _ => return none
  | false, _ =>
    return some (.implementation isDefault isUnsafe generics none self demands inner items)

def foreign (g : Grammar) : Reader ItemKind := do
  let isUnsafe ← tryWord "unsafe"
  guard (aheadWord "extern" (← get))
  let convention ← convention
  let (inner, items) ← members g (foreignMember g)
  return .foreign isUnsafe convention inner items

def module (g : Grammar) : Reader ItemKind := do
  let isUnsafe ← tryWord "unsafe"
  word "mod"
  let n ← if aheadWord "try" (← get) then anyName else name
  if ← tryOp ";" then return .module isUnsafe n [] none
  let (inner, items) ← inside (do return (← innerMarks g, ← upToEnd g.item)) (← group .curly)
  return .module isUnsafe n inner (some (items.map Item.tokens))

def staticKind (g : Grammar) : Reader (Option ItemKind) := do
  word "static"
  let isMut ← tryWord "mut"
  let n ← name
  if ← tryOp "=" then
    discard (g.expr true)
    markOp ";"
    return none
  markOp ":"
  let t ← g.ty true
  if ← tryOp ";" then return none
  markOp "="
  let e ← g.expr true
  markOp ";"
  return some (.static isMut n t e)

def macroKind : Reader ItemKind := do
  let path ← modulePath
  markOp "!"
  let n ← if aheadWord "try" (← get) then some <$> anyName else whenAhead aheadName name
  let (b, inner) ← anyGroup
  if b ≠ .curly then markOp ";"
  return .macroCall ⟨path, b, inner⟩ n (b ≠ .curly)

def macroDefinition : Reader Unit := do
  word "macro"
  discard name
  if aheadGroup .round (← get) then discard (group .round)
  discard (group .curly)

def itemKind (g : Grammar) (isBare : Bool) : Reader (Option ItemKind) := do
  let ts ← get
  let second (w : String) : Bool := aheadSecond (aheadWord w) ts
  if aheadSignature ts then
    let s ← signature g
    if ← tryOp ";" then return none
    return some (.function s (← body g))
  if aheadWord "extern" ts then
    if second "crate" then return some (← externCrate)
    guard isBare
    return some (← foreign g)
  if aheadWord "use" ts then return ← useKind
  if aheadWord "static" ts then return ← staticKind g
  if aheadWord "const" ts then
    let c ← constParts g
    return if c.isPlain then c.value.map (.const c.name c.t) else none
  if aheadWord "unsafe" ts && second "extern" then
    guard isBare
    return some (← foreign g)
  if aheadWord "mod" ts || (aheadWord "unsafe" ts && second "mod") then return some (← module g)
  if aheadWord "type" ts then
    let a ← aliasParts g true false
    return if a.hasColon then none else a.t.map (.type a.name a.generics a.demands)
  if aheadWord "struct" ts || aheadWord "enum" ts ||
      (aheadWord "union" ts && aheadSecond aheadName ts) then return some (← typeKind g)
  if aheadWord "impl" ts || (aheadWord "unsafe" ts && second "impl") ||
      (aheadWord "default" ts && !aheadSecond (aheadOp "!") ts) then
    return ← implementation g isBare
  if aheadWord "macro" ts then
    macroDefinition
    return none
  guard (isBare && aheadModulePath ts)
  return some (← macroKind)

def aheadTrait (ts : Tokens) : Bool :=
  let rest := if aheadWord "unsafe" ts then ts.drop 1 else ts
  aheadWord "trait" rest || (aheadWord "auto" rest && aheadSecond (aheadWord "trait") rest)

def anyItem (g : Grammar) : Reader Item := do
  let before ← get
  let outer ← marks g
  let vis ← visibility
  if aheadTrait (← get) then return ← traitOrAlias g outer vis
  match ← itemKind g (vis matches .inherited) with
  | some kind => return .plain outer vis kind
  | none => return .verbatim (← since before)

def traitItem (g : Grammar) : Reader Trait := do
  let outer ← marks g
  let vis ← visibility
  let .trait t ← traitOrAlias g outer vis | failure
  return t

def typeItem (g : Grammar) : Reader Item := do
  let outer ← marks g
  let vis ← visibility
  return .plain outer vis (← typeKind g)

end Callwire.Source.Reader
