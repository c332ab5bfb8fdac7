namespace RateSweep.Text

abbrev Ranges := Array (Nat × Nat)

def Ranges.has (rs : Ranges) (c : Char) : Bool :=
  rs.any fun (first, last) => first ≤ c.toNat && c.toNat ≤ last

end RateSweep.Text
