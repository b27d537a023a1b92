import AgentOperator.Agent.Resource
import AgentOperator.Json.Yaml

/-!
AgentOperator.Main — prints the definition of agents, to be applied to a
cluster.
-/

def main : IO Unit := IO.print (AgentOperator.Json.Yaml.render AgentOperator.Agent.definition)
