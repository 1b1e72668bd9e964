import ApiCompiler.Hoisting
import ApiCompiler.MediaType
import ApiCompiler.Reference.Resolution

/-!
# Compiling operations

An operation of a document becomes an operation of a client: its path and query parameters, the
body it is sent, and the answer it gives when it succeeds.

Parameters are told apart by name and location.  Those of the path item come first, and a later
declaration replaces an earlier one of the same name and location.  The answer is that of the
status code 200, else 201, else of the least other code of success.
-/

namespace ApiCompiler

/-- Performs a step of a build for every item, in order. -/
def Build.forEach {α β : Type} (step : α → Build β) : List α → Build (List β)
  | [] => pure []
  | a :: as => do
    let b ← step a
    let bs ← forEach step as
    pure (b :: bs)

/-! ## Paths and names -/

/-- The names in braces, in order.  A brace inside a name starts anew. -/
def PathTemplate.names : List Char → List (List Char)
  | [] => []
  | c :: cs =>
    if c = '\x7b' then
      let inner := cs.takeWhile fun d => d ≠ '\x7b' && d ≠ '\x7d'
      match inner, cs.dropWhile fun d => d ≠ '\x7b' && d ≠ '\x7d' with
      | _ :: _, '\x7d' :: _ => inner :: names cs
      | _, _ => names cs
    else names cs

/-- The names in braces of a path, each once, in order of first appearance. -/
def PathTemplate.params (path : String) : List String :=
  ((names path.toList).map String.ofList).eraseDups

/-- The name that models hoisted out of an operation start with. -/
def operationBaseName (operationId : Option String) (method path : String) : String :=
  match operationId with
  | some id =>
    if id.isEmpty then Name.Case.pascal.write s!"{method} {path}" else Name.Case.pascal.write id
  | none => Name.Case.pascal.write s!"{method} {path}"

/-- The tag an operation is grouped under: the first declared tag that is allowed, or the
fallback for an operation without tags.  Without a list every tag is allowed. -/
def groupingTag? (tags : List String) (allowed : Option (List String)) : Option String :=
  let isAllowed (t : String) : Bool := match allowed with
    | none => true
    | some ts => ts.contains t
  (if tags.isEmpty then [fallbackTag] else tags).find? isAllowed

namespace Document

/-! ## Parameters -/

/-- Parameters by name and location: the first place of each, its last declaration. -/
def mergeParameters (ps : List Parameter) : List Parameter :=
  (lastWins (ps.map fun p => ((p.name, p.location), p))).map (·.2)

/-- The schema of a parameter, which may stand under its first media type instead. -/
def Parameter.valueSchema (p : Parameter) : Option Schema :=
  match p.schema with
  | some s => some s
  | none => ((p.content.getD []).head?).bind fun e => e.2.schema

/-- Whether a parameter is part of the path. -/
def Parameter.inPath (p : Parameter) : Bool := p.location = "path"

/-- Whether a parameter is kept: part of the path or of the query. -/
def Parameter.isKept (p : Parameter) : Bool := p.inPath || p.location = "query"

/-- Compiles a parameter. -/
def Parameter.compile (baseName : String) (p : Parameter) : Build Param := do
  let shape ← Schema.compileOptional p.valueSchema (baseName ++ Name.Case.pascal.write p.name)
    "" false
  pure ⟨p.name, p.required.getD false || p.inPath, shape, p.description⟩

/-- Parameters in the order of their names. -/
def sortParams (ps : List Param) : List Param := ps.mergeSort fun p q => p.name ≤ q.name

/-- Compiles the path and the query parameters of an operation. -/
def compileParameters (s : Section Parameter) (baseName : String)
    (nodes : List (OrReference Parameter)) : Build (List Param × List Param) := do
  let resolved ← Build.forEach (fun n => Build.lift (s.resolve n)) nodes
  let compiled ← Build.forEach
    (fun p => do
      let param ← p.compile baseName
      pure (p.inPath, param))
    ((mergeParameters resolved).filter (·.isKept))
  let pick (inPath : Bool) : List Param :=
    sortParams ((compiled.filter fun e => e.1 = inPath).map (·.2))
  pure (pick true, pick false)

/-! ## Bodies and responses -/

/-- Compiles the body of an operation.  A body without media types is none. -/
def compileBody (s : Section RequestBody) (baseName : String)
    (node : Option (OrReference RequestBody)) : Build (Option Body) := do
  match node with
  | none => pure none
  | some node =>
    let body ← Build.lift (s.resolve node)
    match MediaType.preferred? (body.content.getD []) with
    | none => pure none
    | some (contentType, media) =>
      let shape ←
        if MediaType.opaqueTypes.contains contentType then pure .anything
        else Schema.compileOptional media.schema (baseName ++ "Body") "" false
      pure (some ⟨contentType, shape, body.required.getD false, body.description⟩)

/-- The status codes that are tried first. -/
def preferredCodes : List String := ["200", "201"]

/-- Whether a status code means success: `2` and two digits or two letters `X`, with or without
a line end after them. -/
def isSuccessCode (code : String) : Bool :=
  match code.toList with
  | '2' :: a :: b :: rest =>
    (rest = [] || rest = ['\n']) &&
      ((Text.isDigit a && Text.isDigit b) || (a = 'X' && b = 'X'))
  | _ => false

/-- The status codes of success among the given ones, best first. -/
def successCodes (codes : List String) : List String :=
  preferredCodes.filter (fun c => codes.contains c) ++
    (codes.filter fun c => !preferredCodes.contains c && isSuccessCode c).mergeSort (· ≤ ·)

/-- Compiles the response of a status code. -/
def compileResponseOf (code baseName : String) (r : Response) : Build ApiCompiler.Response := do
  let content := r.content.getD []
  if code = "204" then pure (.empty code r.description)
  else
    match (content.find? fun e => MediaType.isJson e.1).or content.head? with
    | none => pure (.empty code r.description)
    | some (contentType, media) =>
      let shape ← Schema.compileOptional media.schema (baseName ++ "Response") "" false
      pure ⟨.content, some shape, r.description, some contentType, some code⟩

/-- Compiles the answer of an operation that succeeds. -/
def compileResponse (s : Section Response) (baseName : String)
    (responses : List (String × OrReference Response)) : Build ApiCompiler.Response := do
  match (successCodes (responses.map (·.1))).head? with
  | none => pure .undeclared
  | some code =>
    match lookup? code responses with
    | none => pure .undeclared
    | some node =>
      let r ← Build.lift (s.resolve node)
      compileResponseOf code baseName r

/-! ## Operations -/

/-- Compiles an operation.  `inherited` are the parameters of its path item. -/
def Operation.compile (c : Components) (path method tag : String)
    (inherited : List (OrReference Parameter)) (op : Operation) : Build ApiCompiler.Operation := do
  let baseName := operationBaseName op.operationId method path
  let (pathParams, queryParams) ← compileParameters (.parameters c) baseName
    (inherited ++ op.parameters.getD [])
  let requestBody ← compileBody (.requestBodies c) baseName op.requestBody
  let response ← compileResponse (.responses c) baseName (op.responses.getD [])
  pure
    { operationId := op.operationId
      method, path, tag
      originalTags := op.tags.getD []
      summary := op.summary
      description := op.description
      deprecated := op.deprecated.getD false
      pathParams
      pathParamOrder := PathTemplate.params path
      queryParams
      requestBody
      response }

end Document
end ApiCompiler
