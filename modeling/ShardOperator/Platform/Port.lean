namespace ShardOperator

/-- The numbers that a network port can have. -/
def isPort (n : Int) : Bool := 1 ≤ n && n ≤ 65535

namespace PortName

def http : String := "http"
def tcp : String := "tcp"
def interserver : String := "interserver-http"

end PortName

end ShardOperator
