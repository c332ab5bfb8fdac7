import RateSweep.Text.Alphabetic
import RateSweep.Text.Numeric

namespace RateSweep.Text

def isAlphanumeric (c : Char) : Bool := isAlphabetic c || isNumeric c

end RateSweep.Text
