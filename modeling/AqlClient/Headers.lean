import AqlClient.Named

/-!
# Header maps

Headers in the order in which their names first appear. Names are compared exactly here:
two spellings of one name are two entries. A header that is asked for without a value
(`HeaderWishes`) is one to be left out, and `HeaderWishes.granted` leaves it out.
-/

namespace AqlClient

/-- Headers as they are sent. -/
abbrev Headers := Named String

/-- Headers as they are asked for: without a value, a header is to be left out. -/
abbrev HeaderWishes := Named (Option String)

/-- The headers that a map of wishes leads to. -/
def HeaderWishes.granted (wishes : HeaderWishes) : Headers :=
  wishes.filterMap fun entry => entry.2.map fun value => (entry.1, value)

end AqlClient
