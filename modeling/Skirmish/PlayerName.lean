import Skirmish.Rules
import Skirmish.Text.Blank
import Skirmish.Text.Utf8

/-!
# Names

`validate_name` of the roster and `valid_name` of the client. Both want a single word of at most
`Rules.maxNameBytes`; only `validate_name` also refuses control characters.
-/

namespace Skirmish.PlayerName

/-- `validate_name` of the server: `name` is not empty, has at most `Rules.maxNameBytes` bytes, and
no character is `Text.isBlank` or `Text.isControl`. -/
def isValid (name : String) : Bool :=
  name ≠ "" && Text.Utf8.size name ≤ Rules.maxNameBytes &&
    name.toList.all fun c => !Text.isBlank c && !Text.isControl c

/-- `valid_name` of the client, under which it starts: as `isValid`, but without the test for
`Text.isControl`. -/
def isEntered (name : String) : Bool :=
  name ≠ "" && Text.Utf8.size name ≤ Rules.maxNameBytes &&
    name.toList.all fun c => !Text.isBlank c

end Skirmish.PlayerName
