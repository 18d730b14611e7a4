namespace Cohort

abbrev Key := { text : String // text ≠ "" }

abbrev Weight := { n : Int // 1 ≤ n }

abbrev Share := { n : Int // 0 ≤ n ∧ n ≤ 100 }

def Weight.one : Weight := ⟨1, by decide⟩

def Share.all : Share := ⟨100, by decide⟩

-- Objects in an answer go no deeper than this.
def deepestAnswer : Nat := 255

end Cohort
