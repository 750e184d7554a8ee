import PathEdit.Regex.CharSet
import PathEdit.Unicode.ScriptExtension
import PathEdit.Unicode.Script
import PathEdit.Unicode.Version

/-! Sets of characters by script and by the version of Unicode that introduced them. -/
namespace PathEdit.Regex.CharSet

def findScript? (name : String) : Option Unicode.Script :=
  Unicode.scripts.find? fun script => script.names.contains name

/-- The characters of a script. -/
def script? (name : String) : Option CharSet := (findScript? name).map fun s => listed s.spans

/-- The characters that a script uses: its own without those whose scripts are listed, and those
whose list names it. -/
def scriptExtension? (name : String) : Option CharSet :=
  (findScript? name).map fun script =>
    let listedOnes := listedAny (Unicode.scriptExtensions.map (·.spans))
    let naming := Unicode.scriptExtensions.filter fun e => e.codes.any script.names.contains
    union (diff (listed script.spans) listedOnes) (listedAny (naming.map (·.spans)))

/-- The characters of a version and of all before it. -/
def age? (name : String) : Option CharSet :=
  (Unicode.versions.findIdx? fun v => v.number == name || v.name == name).map fun index =>
    listedAny ((Unicode.versions.take (index + 1)).map (·.spans))

end PathEdit.Regex.CharSet
