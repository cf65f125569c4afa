/-!
# The numbers of the game

Every amount, limit and fixed word that more than one module refers to.

Health is a 32-bit signed number throughout, because that is what travels in packets; it may
become negative.
-/

namespace Skirmish.Rules

/-- `STARTING_HEALTH`: the health of `Player.join`. -/
def startingHealth : Int32 := 100

/-- `DEFAULT_EXPECTED_PLAYERS`: the capacity of a session when the command line gives none. -/
def expectedPlayers : Nat := 3

/-- `MAX_NAME_LEN`: the largest `Text.Utf8.size` of a name that `PlayerName.isValid` accepts. -/
def maxNameBytes : Nat := 32

/-- `MAX_PACKET_SIZE`: the largest encoded packet, and hence the largest frame payload, in bytes. -/
def maxPacketBytes : Nat := 4096

/-! ## Amounts of the actions -/

/-- `HEAL_AMOUNT`: the `Action.delta` of `Action.heal`. -/
def healAmount : Int32 := 10

/-- `HEAL_RANDOM_MIN`: the least `Action.delta` of `Action.healRandom`. -/
def healLow : Int32 := 5

/-- `HEAL_RANDOM_MAX`: the greatest `Action.delta` of `Action.healRandom`. -/
def healHigh : Int32 := 15

/-- `ATTACK_AMOUNT`: the `Action.delta` of `Action.attack` is its negative. -/
def attackAmount : Int32 := 12

/-- `ATTACK_RANDOM_MIN`: the negated `Action.delta` of `Action.attackRandom` is at least this. -/
def attackLow : Int32 := 6

/-- `ATTACK_RANDOM_MAX`: the negated `Action.delta` of `Action.attackRandom` is at most this. -/
def attackHigh : Int32 := 18

/-! ## Fixed words -/

/-- `SERVER_PREFIX`: what `Notice.serverLine` puts before its text. -/
def serverTag : String := "[Server] "

/-- `SELF_TARGET`: the target by which `Session.target` means the player that acts. -/
def selfWord : String := "me"

end Skirmish.Rules
