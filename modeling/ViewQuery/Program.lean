import ViewQuery.Database.Recording
import ViewQuery.Environment
import ViewQuery.Evaluation
import ViewQuery.Generation
import ViewQuery.Invocation
import ViewQuery.Outcome
import ViewQuery.Selection
import ViewQuery.Settings
import ViewQuery.Storage

set_option autoImplicit false

namespace ViewQuery

namespace Program

structure Setup where
  settings : Settings
  registry : Registry
  validator : Validator

def settingsFailure (path : String) (f : Failure) : Failure := f.during ("loading " ++ path)

def parsed {α : Type} (path : String) (read : String → Except Yaml.Error α)
    (source : Except FileError String) : Except Failure α :=
  match source with
  | .error e =>
    .error (settingsFailure path (.caused "Failed to read config file: " e.message))
  | .ok source =>
    (read source).mapError fun e =>
      settingsFailure path (.caused "Failed to parse YAML: " e.message)

def executionFailure : ExecutionError → Failure
  | .database message => .caused "Database error: " message
  | e => .of e.message

def addCatalogs (v : Validator) (d : Database) : List CatalogSource → Except Failure Validator
  | [] => .ok v
  | c :: rest =>
    match d.catalog c.table c.column with
    | (.error e, _) =>
      .error ((executionFailure e).during ("loading catalog " ++ c.table ++ "." ++ c.column))
    | (.ok catalog, d) => addCatalogs (v.withResolver c.resolver (.ofCatalog catalog)) d rest

def rejected (view : String) (e : QueryError) : Outcome where
  printed :=
    (Json.sorted (.obj [("valid", .bool false), ("kind", .str e.kind.name),
      ("error", .str e.message)])).pretty ++ "\n"
  ending := .failure (.of ("IQL rejected by view " ++ view ++ ": " ++ e.kind.name))

def accepted (q : CheckedQuery) : Outcome :=
  let texts (cs : List CheckedCall) : Json := .arr (cs.map fun c => .str c.text)
  .success ((Json.sorted (.obj [("valid", .bool true), ("filters", texts q.filters),
    ("actions", texts q.actions), ("fingerprint", .str q.fingerprint)])).pretty ++ "\n")

def check (s : Setup) (view filters actions : String) : Outcome :=
  match s.registry.get view with
  | .error e => .failure (.of e.message)
  | .ok v =>
    match s.validator.checkQuery filters actions v with
    | .ok q => accepted q
    | .error (.error e) => rejected view e
    | .error .crash => ⟨"", .crash⟩

def datasetFailure : DatasetError → Failure
  | .notUtf8 => .caused "IO error: " FileError.notUtf8.message
  | .invalidRecord line e =>
    .caused ("Invalid record on line " ++ toString line ++ ": ") e.message

def generated (view : View) (e : Example) (g : Generation) : Example :=
  { e with view := some view.name, filters := g.draft.filters, actions := g.draft.actions }

def viewFor (s : Setup) (fixed : Option View) (question : String) (chat : Chat) :
    Except ChatError View × Chat :=
  match fixed with
  | some view => (.ok view, chat)
  | none => s.registry.select question chat

def generateAll (s : Setup) (fixed : Option View) (chat : Chat) :
    List Example → Except (Stop ChatError) (List Example)
  | [] => .ok []
  | e :: rest =>
    match e.question with
    | none => generateAll s fixed chat rest
    | some question =>
      match viewFor s fixed question chat with
      | (.error error, _) => .error (.error error)
      | (.ok view, chat) =>
        match s.validator.generate view s.settings.model.attempts question chat with
        | (.error stop, _) => .error stop
        | (.ok g, chat) => (generateAll s fixed chat rest).map (generated view e g :: ·)

section

variable {m : Type → Type} [Monad m] [Storage m]

def loadDataset (path : String) : m (Except Failure (List Example)) := do
  match ← Storage.read path with
  | .error e => return .error (.caused "IO error: " e.message)
  | .ok contents => return (Dataset.read contents).mapError datasetFailure

def evaluate (s : Setup) (dataset : String) (view output : Option String) : m Outcome := do
  match ← loadDataset dataset with
  | .error f => return .failure f
  | .ok es =>
    match s.registry.evaluate s.validator s.settings.evaluation.concurrency view es with
    | .error stop => return .stopped EvaluationError.message stop
    | .ok evaluation =>
      let report := evaluation.toJson.pretty
      let printed := report ++ "\n"
      match output with
      | none => return .success printed
      | some path =>
        match ← Storage.writeText path report with
        | .ok _ => return .success printed
        | .error e =>
          return ⟨printed, .failure ((Failure.of e.message).during ("writing " ++ path))⟩

def keyVariable : String := "OPENAI_API_KEY"

def generate (env : Environment) (chat : Chat) (s : Setup) (questions output : String)
    (view : Option String) : m Outcome := do
  if (env.get? keyVariable).isNone then
    return .failure (.of ("Missing required environment variable: " ++ keyVariable))
  match view.mapM s.registry.get with
  | .error e => return .failure (.of e.message)
  | .ok fixed =>
    match ← loadDataset questions with
    | .error f => return .failure f
    | .ok es =>
      match generateAll s fixed chat es with
      | .error stop => return .stopped ChatError.message stop
      | .ok es =>
        match ← Storage.writeText output (Dataset.text es) with
        | .ok _ => return .success ""
        | .error e => return .failure (.caused "IO error: " e.message)

def loadSettings (env : Environment) (i : Invocation) : m (Except Failure Settings) := do
  let fromFile ←
    if ← Storage.contains i.settings then
      pure (parsed i.settings Settings.read (← Storage.readText i.settings))
    else pure (.ok Settings.default)
  match fromFile, i.views with
  | .error f, _ => return .error f
  | .ok s, none => return .ok (s.override env.get?)
  | .ok s, some path =>
    match parsed path Settings.readViews (← Storage.readText path) with
    | .error f => return .error f
    | .ok views =>
      let s := s.override env.get?
      return .ok { s with views := s.views ++ views }

def loadDatabase (path : String) : m Database := do
  match ← Storage.readText path with
  | .ok source => return .ofRecorded (Recording.read source)
  | .error _ => return .ofRecorded []

def loadValidator (e : EvaluationSettings) : m (Except Failure Validator) := do
  let v := { Validator.default with timeLimit := e.timeLimit, resolves := e.resolves }
  if e.resolves then
    match e.database with
    | none => return .error (.of "evaluation.resolve_similarity needs evaluation.database")
    | some path => return addCatalogs v (← loadDatabase path) e.catalogs
  else return .ok v

def prepare (env : Environment) (i : Invocation) : m (Except Failure Setup) := do
  match ← loadSettings env i with
  | .error f => return .error f
  | .ok settings =>
    match Registry.ofDeclarations settings.views with
    | .error e => return .error (.of e.message)
    | .ok registry =>
      return (← loadValidator settings.evaluation).map fun validator =>
        ⟨settings, registry, validator⟩

def variablesFile : String := ".env"

def loadVariables (env : Environment) : m Environment := do
  match ← Storage.read variablesFile with
  | .ok file => return env.addFile file
  | .error _ => return env

def run (env : Environment) (chat : Chat) (args : List String) : m Outcome := do
  let env ← loadVariables env
  match Invocation.ofArguments? args with
  | none => return ⟨"", .misuse⟩
  | some i =>
    match ← prepare env i with
    | .error f => return .failure f
    | .ok s =>
      match i.command with
      | .generate questions output view => generate env chat s questions output view
      | .evaluate dataset view output => evaluate s dataset view output
      | .check view filters actions => return check s view filters actions

end

end Program

end ViewQuery
