import SynonymLookup.Fixture
import SynonymLookup.Startup.Sources
import SynonymLookup.Wording.Choice

/-! Starting a service: its settings are seeded from the options, and the dataset is
applied on top. -/

namespace SynonymLookup

/-- An otherwise fresh service with a dataset applied. -/
def Service.ofFixture (f : Fixture) (blobs : Blobs) : Service where
  backend := { store := f.applyStore {} }
  blobs := f.applyBlobs blobs

namespace Startup

inductive LaunchError where
  | options (error : OptionsError)
  /-- The file of the dataset cannot be read. -/
  | missingFixture (path : String)
  | malformedFixture (path : String)
deriving DecidableEq, Repr

namespace Options

/-- The settings that the options stand for. -/
def seeds (o : Options) : Blobs :=
  o.defaultWordings.entries.foldl
    (fun b e => b.insert (Behavior.defaultsKey e.1) (BehaviorDefaults.toJson ⟨e.2⟩))
    (KeyMap.empty.insert ModuleSettings.key (ModuleSettings.toJson ⟨o.wordingType⟩))

end Options

/-- The service of some options; `read` gives the texts of files. -/
def launch (o : Options) (read : String → Option String) : Except LaunchError Service :=
  match o.fixture with
  | none => return Service.ofFixture {} o.seeds
  | some path =>
    match read path with
    | none => throw (.missingFixture path)
    | some text =>
      match Fixture.ofText? text with
      | none => throw (.malformedFixture path)
      | some f => return Service.ofFixture f o.seeds

/-- The service of the options of some sources. A dataset that is named here replaces
that of the options. -/
def start (s : Sources) (fixture : Option String) (read : String → Option String) :
    Except LaunchError Service :=
  match s.load with
  | .error e => throw (.options e)
  | .ok o => launch { o with fixture := fixture.or o.fixture } read

end Startup
end SynonymLookup
