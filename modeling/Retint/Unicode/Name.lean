import Retint.Unicode.Age
import Retint.Unicode.Break

/-!
# Named classes

The classes of characters that can be called by name: by that of a property that characters have
or have not, of a general category or of a script, or by a property and its value.

## Main definitions

* `Unicode.named?` — the class with a name
* `Unicode.valued?` — the class in which a property has a value
-/

namespace Retint.Unicode

/-- The class with a name. Of two classes with one name a property comes before a category, and a
category before a script. -/
def named? (name : Text) : Option CharSet :=
  let name := loose name
  (binaryProperty? name).or ((categoryGroup? name).or (script? name))

/-- The properties with values, each with its names and its classes by name. -/
def valuedProperties : List (List String × (Text → Option CharSet)) := [
  (["General_Category", "gc"], categoryGroup?), (["Script", "sc"], script?),
  (["Script_Extensions", "scx"], scriptExtension?), (["Age"], age?),
  (["Grapheme_Cluster_Break", "GCB"], graphemeBreak?), (["Word_Break", "WB"], wordBreak?),
  (["Sentence_Break", "SB"], sentenceBreak?)]

/-- The class in which the property called `key` has the value called `value`. -/
def valued? (key value : Text) : Option CharSet :=
  (valuedProperties.find? fun (names, _) => isOneOf names (loose key)).bind fun (_, class?) =>
    class? (loose value)

end Retint.Unicode
