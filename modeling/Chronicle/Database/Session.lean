import Chronicle.Regex.Standard
import Chronicle.Sql.Standard
import Chronicle.Database.Host

/-! # Sessions

Databases that are open and entities in memory, each under a name. Copies of an entity have names of
their own and share its link. -/
namespace Chronicle

structure Session where
  host : Host
  entities : SortedMap String Entity

namespace Session

def start (directories : List String) : Session := ⟨.start directories, .empty⟩

def put (s : Session) (name : String) (e : Entity) : Session :=
  { s with entities := s.entities.insert name e }

/-- The entities under these names, with the names. -/
def named (s : Session) (names : List String) : List (String × Entity) :=
  names.filterMap fun name => (s.entities.get? name).map (name, ·)

/-- Saves entities in a database. They are replaced by what they are afterwards once all are saved. -/
def save [Regex.Library] (s : Session) (db : String) (d : Handle) (names : List String) :
    Except Error Unit × Session :=
  let found := s.named names
  match s.host.within db d (Chronicle.save d.settings (found.map Prod.snd)) with
  | (.ok saved, host) =>
    (.ok (), ((found.map Prod.fst).zip saved).foldl (fun s (name, e) => s.put name e) { s with host })
  | (.error e, host) => (.error e, { s with host })

end Session

end Chronicle
