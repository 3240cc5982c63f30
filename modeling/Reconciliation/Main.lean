import Reconciliation.Definition

/-!
The command line: prints the definitions of the owner resources, to be applied to a cluster.
-/

/-- Prints the definitions. -/
def main : IO Unit := IO.print Reconciliation.Definition.manifest
