import YamlDialects.Schema.Dialect

set_option autoImplicit false

namespace YamlDialects.Workflows

open GraphBuilder

def actions : List String :=
  ["assign", "call", "switch", "for", "parallel", "try", "raise", "return", "steps"]

def functions : List String :=
  ["http.get", "http.post", "http.put", "http.patch", "http.delete", "http.request", "sys.get_env",
    "sys.log", "sys.now", "sys.sleep", "events.await_callback", "events.create_callback_endpoint"]

def jumps : List String :=
  ["end", "continue", "break"]

def expression : GraphBuilder TypeId :=
  atomic "Expression"

def variableName : GraphBuilder TypeId :=
  atomic "Variable"

def anyValue : GraphBuilder TypeId :=
  any "Value"

def number : GraphBuilder TypeId :=
  atomic "Number"

def arguments : GraphBuilder TypeId := do
  map (← variableName) (← anyValue)

def property (name : String) (type : TypeId) (description : String := "") : Property :=
  { name, type, description := if description.isEmpty then .empty else .text description }

def requiredProperty (name : String) (type : TypeId) (description : String := "") : Property :=
  { property name type description with required := true }

def switchCondition (steps assign next : TypeId) : GraphBuilder TypeId := do
  bean "SwitchCondition"
    [requiredProperty "condition" (← expression) "Expression selecting this branch.",
      property "next" next,
      property "steps" steps,
      property "assign" assign,
      property "return" (← anyValue),
      property "raise" (← anyValue)]
    [.atMostOneOf ["next", "steps", "return", "raise"]]

def forLoop (steps : TypeId) : GraphBuilder TypeId := do
  bean "ForLoop"
    [requiredProperty "value" (← variableName) "Loop variable holding the current element.",
      property "index" (← variableName),
      property "in" (← any "List"),
      property "range" (← sequence (← number)),
      requiredProperty "steps" steps]
    [.atMostOneOf ["in", "range"]]

def parallel (steps loop : TypeId) : GraphBuilder TypeId := do
  let branch ← map (← atomic "BranchName") (← bean "Branch" [requiredProperty "steps" steps])
  bean "Parallel"
    [property "shared" (← sequence (← variableName)) "Variables visible to all branches.",
      property "concurrency_limit" (← add (integerDef "ConcurrencyLimit" (some 1) none)),
      property "exception_policy" (← add (enumerationDef "ExceptionPolicy" ["continueAll", "unhandled"]
        [.replacedBy "unhandled" "continueAll"])),
      property "branches" (← sequence branch),
      property "for" loop]
    [.atMostOneOf ["branches", "for"]]

def retryPolicy : GraphBuilder TypeId := do
  let backoff ← bean "Backoff"
    [property "initial_delay" (← number), property "max_delay" (← number), property "multiplier" (← number)]
  bean "RetryPolicy"
    [requiredProperty "predicate" (← expression),
      requiredProperty "max_retries" (← add (integerDef "MaxRetries" (some 0) none)),
      property "backoff" backoff]

def retry : GraphBuilder TypeId := do
  contextual "Retry" (.byScalar (← expression) (← retryPolicy))

def tryBody (steps call : TypeId) : GraphBuilder TypeId := do
  bean "TryBody"
    [property "steps" steps, property "call" call, property "args" (← arguments),
      property "result" (← variableName)]

def exceptBody (steps : TypeId) : GraphBuilder TypeId := do
  bean "Except"
    [property "as" (← variableName) "Variable receiving the error.", requiredProperty "steps" steps]

def step (steps : TypeId) : GraphBuilder TypeId := do
  let assign ← sequence (← arguments)
  let call ← atomic "Function" (functions.map Hint.of)
  let next ← atomic "StepName" (jumps.map Hint.of)
  let condition ← switchCondition steps assign next
  let loop ← forLoop steps
  bean "Step"
    [property "assign" assign "Assigns values to variables.",
      property "call" call "Calls a function or subworkflow.",
      property "args" (← arguments) "Arguments passed to the called function.",
      property "result" (← variableName) "Variable receiving the call result.",
      property "next" next "Step to jump to after this one.",
      property "switch" (← sequence condition) "Conditional jumps.",
      property "for" loop "Iterates over a list or range.",
      property "parallel" (← parallel steps loop) "Runs branches or iterations in parallel.",
      property "try" (← tryBody steps call) "Steps whose errors are handled.",
      property "retry" (← retry) "Retry policy for the try block.",
      property "except" (← exceptBody steps) "Error handler of the try block.",
      property "raise" (← anyValue) "Raises an error.",
      property "return" (← anyValue) "Ends the workflow.",
      property "steps" steps "Nested steps."]
    [.atMostOneOf actions, .requireWith ["args", "result"] "call"]

def stepList : GraphBuilder TypeId := do
  let steps ← reference "Steps"
  let named ← map (← atomic "StepName") (← step steps) [.singleKey "Step should have exactly one named key"]
  bind steps (← sequence named)
  return steps

def document : GraphBuilder TypeId := do
  let steps ← stepList
  let workflow ← bean "Workflow"
    [property "params" (← sequence (← any "Param")) "Parameters of the workflow.",
      requiredProperty "steps" steps "Steps of the workflow."]
  let workflows ← map (← atomic "WorkflowName" [Hint.of "main"]) workflow
  contextual "WorkflowsDocument" (.bySequence steps workflows)

def dialect (compile : String → Option Pattern := Pattern.ofText?) : Except SchemaError Dialect := do
  let (root, graph) ← document.run {}
  return {
    name := "gcp-workflows"
    graph
    root
    files := ← ["\\.workflows?\\.ya?ml$", "\\.ya?ml\\.tftpl$"].mapM (FilePattern.ofText · compile)
    constraints := [.requireKey "main" "Workflow must have a 'main' block"] }

end YamlDialects.Workflows
