import SlotMachine.Round

/-!
# Statistics

What was bet and paid out within a window of time, by one user or by all, and the return to the
player that follows from it. Sums are taken from left to right, beginning at zero; of no plays there
are no statistics.
-/

namespace SlotMachine

/-- The return to the player in percent; zero where nothing was bet. -/
def rtpPercent (totalBets totalPayouts : Float) : Float :=
  if totalBets > 0.0 then totalPayouts / totalBets * 100.0 else 0.0

/-- What a round counts for in statistics. -/
structure Play where
  userId : Option String
  bet : Float
  payout : Float

namespace Play

def ofRound (r : Round) : Play where
  userId := some r.userId
  bet := r.bet
  payout := r.payout

def totalBets (plays : List Play) : Float :=
  plays.foldl (fun total play => total + play.bet) 0.0

def totalPayouts (plays : List Play) : Float :=
  plays.foldl (fun total play => total + play.payout) 0.0

/-- The users, each once. -/
def players (plays : List Play) : List String :=
  (plays.filterMap (·.userId)).eraseDups

end Play

/-- The totals of one user. -/
structure SessionStats where
  totalBets : Float
  totalPayouts : Float
  count : Nat

namespace SessionStats

def rtp (s : SessionStats) : Float := rtpPercent s.totalBets s.totalPayouts

def ofPlays? (plays : List Play) : Option SessionStats :=
  if plays.isEmpty then none
  else some {
    totalBets := Play.totalBets plays
    totalPayouts := Play.totalPayouts plays
    count := plays.length }

end SessionStats

/-- The totals of all users. -/
structure RollingStats where
  totalBets : Float
  totalPayouts : Float
  count : Nat
  uniquePlayers : Nat

namespace RollingStats

def rtp (s : RollingStats) : Float := rtpPercent s.totalBets s.totalPayouts

def ofPlays? (plays : List Play) : Option RollingStats :=
  if plays.isEmpty then none
  else some {
    totalBets := Play.totalBets plays
    totalPayouts := Play.totalPayouts plays
    count := plays.length
    uniquePlayers := (Play.players plays).length }

end RollingStats

end SlotMachine
