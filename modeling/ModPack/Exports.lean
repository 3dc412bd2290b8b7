import ModPack.Actor
import ModPack.NamedString
import ModPack.Registry
import ModPack.Sprite

/-!
# The exports of a package

One registry for each kind of export, holding a package's own exports and those of everything it
depends on. Main statement: what the merged registries hold under an identifier.
-/
namespace ModPack

structure Exports where
  sprites : Registry Sprite := ∅
  actors : Registry Actor := ∅
  strings : Registry NamedString := ∅
  deriving Inhabited

namespace Exports

/-- All exports of both; `other` wins where both have one. -/
def merge (exports other : Exports) : Exports where
  sprites := exports.sprites.merge other.sprites
  actors := exports.actors.merge other.actors
  strings := exports.strings.merge other.strings

theorem get?_sprites_merge (exports other : Exports) (id : Identifier) :
    (exports.merge other).sprites.get? id =
      (other.sprites.get? id).or (exports.sprites.get? id) :=
  Registry.get?_merge exports.sprites other.sprites id

end Exports

end ModPack
