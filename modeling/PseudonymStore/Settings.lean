import PseudonymStore.Text.Utf8
import PseudonymStore.Text.Path
import PseudonymStore.Log.Subscriber
/-!
# Settings

Where the database lies and how the log is written, as two environment variables say.  A variable that is not text counts
as unset.
-/
namespace PseudonymStore

structure Settings where
  directory : String
  logFormat : Log.Format

namespace Settings

def defaultDirectory : String := "./data"

def fileName : String := "events.redb"

def default : Settings :=
  ⟨defaultDirectory, .pretty⟩

/-- The settings that the values of the two variables give; a blank directory counts as unset. -/
def ofVariables (directory logFormat : Option Bytes) : Settings where
  directory := ((directory.bind Utf8.decode?).filter fun s => !(Blank.trim s.toList).isEmpty).getD defaultDirectory
  logFormat := ((logFormat.bind Utf8.decode?).map Log.Format.parse).getD .pretty

def withDirectory (s : Settings) (directory : String) : Settings :=
  { s with directory }

def databasePath (s : Settings) : String :=
  Path.file s.directory fileName

/-- Whether settings say the same: directories are compared as paths, not as texts. -/
def agrees (s t : Settings) : Bool :=
  Path.parts s.directory = Path.parts t.directory ∧ s.logFormat = t.logFormat

end Settings

end PseudonymStore
