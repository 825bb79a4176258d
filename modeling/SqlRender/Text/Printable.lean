import SqlRender.Text.Printable.Table

namespace SqlRender.Text

def isPrintable (c : Char) : Bool :=
  printableRuns.any fun (first, last) ↦ first ≤ c.toNat && c.toNat ≤ last

end SqlRender.Text
