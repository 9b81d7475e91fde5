import DeploymentLab.Model.Coordination
import DeploymentLab.Model.PyValue

/-!
# Task creation over HTTP

`POST /tasks` from the body of the request to the status of the response: the checks of
`TaskCreateRequest`, `normalize_task_input`, the service, and the exception handlers that
`create_app` registers.
-/

namespace DeploymentLab

mutual

/-- Whether `json.loads` may return the value: the keys of its objects are strings, and its integers
have no more digits than it reads. -/
def PyValue.loaded : PyValue → Bool
  | .none | .bool _ | .float _ _ | .str _ => true
  | .int i => (intRepr i).isSome
  | .list items => itemsLoaded items
  | .tuple _ => false
  | .dict members => membersLoaded members

def itemsLoaded : List PyValue → Bool
  | [] => true
  | item :: items => item.loaded && itemsLoaded items

def membersLoaded : List (PyKey × PyValue) → Bool
  | [] => true
  | (key, value) :: members => key.isStr && value.loaded && membersLoaded members

end

/-- What `json.loads` makes of the body of a request: a value, a `JSONDecodeError`, or an error of
another type, as for an integer of too many digits. -/
inductive RequestBody
  | json (value : PyValue) (loaded : value.loaded = true)
  | malformed
  | unreadable

/-- What the framework refuses besides in an input, as for the depth of its nesting. -/
class InputScreen where
  passes : PyValue → Bool

inductive ApiError
  | requestValidationError
  | httpException (statusCode : ℕ)
  | validationError
  | unicodeEncodeError
  | dataError
  | service (e : Exn)
  deriving DecidableEq, Repr

/-- The status that a handler of `register_task_exception_handlers` responds with. -/
def Exn.handledStatus : Exn → Option ℕ
  | .taskNotFoundError _ => some 404
  | .idempotencyConflictError => some 409
  | .invalidTaskTransitionError _ _ => some 409
  | _ => none

namespace ApiError

/-- Whether the exception has a handler in `create_app`, which is either the one for validation or
one for an error of the domain. -/
def registered : ApiError → Bool
  | .requestValidationError => true
  | .service e => e.handledStatus.isSome
  | _ => false

/-- The status of the response. The framework answers its own exceptions, and what nobody handles
with 500. -/
def status : ApiError → ℕ
  | .requestValidationError => 422
  | .httpException statusCode => statusCode
  | .service e => e.handledStatus.getD 500
  | .validationError | .unicodeEncodeError | .dataError => 500

end ApiError

def rejectNonFiniteNumbers (value : PyValue) : Except ApiError Unit :=
  if value.containsNonFinite then throw .requestValidationError else pure ()

def PyKey.isNamed (name : String) : PyKey → Bool
  | .str s => s == PyStr.ofString name
  | _ => false

/-- A body that `TaskCreateRequest` has accepted, with its text as it came. -/
structure CreatePayload where
  taskType : String
  input : PyValue

namespace CreatePayload

def field (members : List (PyKey × PyValue)) (name : String) : Option PyValue :=
  (members.find? fun m => m.1.isNamed name).map (·.2)

def modelValidate [InputScreen] : PyValue → Except ApiError CreatePayload
  | .dict members =>
    if members.all fun m => m.1.isNamed "task_type" || m.1.isNamed "input" then
      match field members "task_type", field members "input" with
      | some (.str s), some (.dict input) =>
        match s.encode with
        | some taskType =>
          if taskTypePattern taskType && InputScreen.passes (.dict input) then do
            rejectNonFiniteNumbers (.dict input)
            pure { taskType, input := .dict input }
          else throw .requestValidationError
        | none => throw .requestValidationError
      | _, _ => throw .requestValidationError
    else throw .requestValidationError
  | _ => throw .requestValidationError

/-- The request for `create_task`. Text with half a surrogate pair breaks the contract of the one
type, and cannot be encoded to be hashed for any other. -/
def request [LaxCoercion] (payload : CreatePayload) (idempotencyKey : String) :
    Except ApiError CreateTaskRequest :=
  match payload.input.toJson with
  | none =>
    if payload.taskType = "deployment_context_sync" then throw .validationError
    else throw .unicodeEncodeError
  | some input =>
    match (TaskCreateRequest.mk payload.taskType input).request idempotencyKey with
    | some request => pure request
    | none => throw .validationError

end CreatePayload

def RequestBody.validate [InputScreen] : RequestBody → Except ApiError CreatePayload
  | .json value _ => CreatePayload.modelValidate value
  | .malformed => throw .requestValidationError
  | .unreadable => throw (.httpException 400)

def validIdempotencyKey (s : String) : Bool :=
  decide (1 ≤ s.length ∧ s.length ≤ 255) && idempotencyKeyPattern s

/-! ## The route -/

mutual

def JsonValue.characters : JsonValue → List Char
  | .null | .bool _ | .int _ | .float _ => []
  | .str s => s.toList
  | .list items => itemsCharacters items
  | .dict members => membersCharacters members

def itemsCharacters : List JsonValue → List Char
  | [] => []
  | item :: items => item.characters ++ itemsCharacters items

def membersCharacters : List (String × JsonValue) → List Char
  | [] => []
  | (key, value) :: members => key.toList ++ value.characters ++ membersCharacters members

end

/-- `create_task` of the service on a database that refuses the character U+0000 in `jsonb`, whether
there is a task under the key or not. -/
def insertTask [Runtime] (settings : CoordinationSettings) (db : Database) (timestamp : Timestamp)
    (taskId : UUID) (request : CreateTaskRequest) : Except ApiError (CreateTaskResult × Database) :=
  if request.taskInput.characters.contains '\x00' then throw .dataError
  else
    (TaskService.createTask settings.workerDefaultMaxAttempts db timestamp taskId request).mapError
      .service

def postTask [Runtime] [LaxCoercion] [InputScreen] (settings : CoordinationSettings) (db : Database)
    (timestamp : Timestamp) (taskId : UUID) (idempotencyKey : String) (body : RequestBody) :
    Except ApiError (CreateTaskResult × Database) := do
  let payload ← body.validate
  if !validIdempotencyKey idempotencyKey then throw .requestValidationError
  let request ← payload.request idempotencyKey
  insertTask settings db timestamp taskId request

def responseStatus : Except ApiError (CreateTaskResult × Database) → ℕ
  | .ok (result, _) => if result.created then 201 else 200
  | .error e => e.status

end DeploymentLab
