/-!
Registrars, by the identifier under which they log in.
-/

namespace Bailiwick

structure ClientId where
  text : String
  deriving DecidableEq, Repr

end Bailiwick
