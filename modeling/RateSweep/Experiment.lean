namespace RateSweep

inductive Algorithm where
  | roundRobin
  | leastConnections
  | leastResponseTime
deriving DecidableEq, Repr

namespace Algorithm

def all : List Algorithm := [roundRobin, leastConnections, leastResponseTime]

def code : Algorithm → String
  | roundRobin => "rr"
  | leastConnections => "lc"
  | leastResponseTime => "lrt"

def label : Algorithm → String
  | roundRobin => "Round Robin"
  | leastConnections => "Least Connections"
  | leastResponseTime => "Least Response Time"

def ofCode? (s : String) : Option Algorithm := all.find? (·.code == s)

theorem code_inj {a b : Algorithm} (h : a.code = b.code) : a = b := by
  revert h
  cases a <;> cases b <;> decide

theorem ofCode?_code (a : Algorithm) : ofCode? a.code = some a := by cases a <;> rfl

theorem ofCode?_eq_some_iff {s : String} {a : Algorithm} : ofCode? s = some a ↔ a.code = s := by
  constructor
  · intro h
    simpa using List.find?_some h
  · intro h
    rw [← h, ofCode?_code]

end Algorithm

inductive FileSize where
  | small
  | medium
  | large
  | varied
deriving DecidableEq, Repr

namespace FileSize

def all : List FileSize := [small, medium, large, varied]

def code : FileSize → String
  | small => "s"
  | medium => "m"
  | large => "l"
  | varied => "v"

def label : FileSize → String
  | small => "Small"
  | medium => "Medium"
  | large => "Large"
  | varied => "Varied-sized"

def ofCode? (s : String) : Option FileSize := all.find? (·.code == s)

theorem code_inj {f g : FileSize} (h : f.code = g.code) : f = g := by
  revert h
  cases f <;> cases g <;> decide

theorem ofCode?_code (f : FileSize) : ofCode? f.code = some f := by cases f <;> rfl

theorem ofCode?_eq_some_iff {s : String} {f : FileSize} : ofCode? s = some f ↔ f.code = s := by
  constructor
  · intro h
    simpa using List.find?_some h
  · intro h
    rw [← h, ofCode?_code]

end FileSize

inductive LogKind where
  | client
  | balancer
  | cluster
deriving DecidableEq, Repr

namespace LogKind

def all : List LogKind := [client, balancer, cluster]

def tag : LogKind → String
  | client => "client"
  | balancer => "lb"
  | cluster => "cluster"

def label : LogKind → String
  | client => "client"
  | balancer => "load-balancer"
  | cluster => "cluster"

def ofTag? (s : String) : Option LogKind := all.find? (·.tag == s)

theorem ofTag?_tag (k : LogKind) : ofTag? k.tag = some k := by cases k <;> rfl

theorem ofTag?_eq_some_iff {s : String} {k : LogKind} : ofTag? s = some k ↔ k.tag = s := by
  constructor
  · intro h
    simpa using List.find?_some h
  · intro h
    rw [← h, ofTag?_tag]

end LogKind

structure Experiment where
  algorithm : Algorithm
  latencyMs : UInt32
  homogeneous : Bool
  intervalS : UInt32
  fileSize : FileSize
  requestRate : UInt32
deriving DecidableEq, Repr

def homogeneityCode (homogeneous : Bool) : String := if homogeneous then "true" else "false"

def homogeneityLabel (homogeneous : Bool) : String :=
  if homogeneous then "Homogeneous" else "Heterogeneous"

end RateSweep
