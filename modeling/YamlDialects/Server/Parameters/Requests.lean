import YamlDialects.Server.Parameters.Shape

set_option autoImplicit false

namespace YamlDialects.Wire.Shape

def opened : Shape :=
  .record [need "textDocument" (.record [need "uri" .address, need "languageId" .text, need "version" .integer,
    need "text" .text])]

def changed : Shape :=
  .record [
    need "textDocument" versionedDocument,
    need "contentChanges" (.list (.record [may "range" range, may "rangeLength" .natural, need "text" .text]))]

def saved : Shape :=
  .record [need "textDocument" document, may "text" .text]

def closed : Shape :=
  .record [need "textDocument" document]

def hover : Shape :=
  openObject (place ++ progress)

def completion : Shape :=
  openObject (place ++ partialProgress ++
    [may "context" (.record [need "triggerKind" .integer, may "triggerCharacter" .text])])

def codeAction : Shape :=
  openObject (partialProgress ++ [
    need "textDocument" document,
    need "range" range,
    need "context" (.record [need "diagnostics" (.list diagnostic), may "only" (.list .text),
      may "triggerKind" .integer])])

def aboutPlace : Shape :=
  openObject (place ++ progress)

def aboutPlaceInParts : Shape :=
  openObject (place ++ partialProgress)

def aboutDocument (members : List (String × Presence × Shape)) : Shape :=
  openObject (need "textDocument" document :: partialProgress ++ members)

def hierarchyItem (tags : Shape) : Shape :=
  .record [need "name" .text, need "kind" .integer, may "tags" tags, may "detail" .text, need "uri" .address,
    need "range" range, need "selectionRange" range, may "data" .any]

def aboutItem (item : Shape) : Shape :=
  openObject (need "item" item :: partialProgress)

def callItem : Shape :=
  aboutItem (hierarchyItem (.list .integer))

def typeItem : Shape :=
  aboutItem (hierarchyItem .integer)

def documentLink : Shape :=
  .record [need "range" range, may "target" .address, may "tooltip" .text, may "data" .any]

def codeLens : Shape :=
  .record [need "range" range, may "command" command, may "data" .any]

def codeActionItem : Shape :=
  .record [need "title" .text, may "kind" .text, may "diagnostics" (.list diagnostic), may "edit" workspaceEdit,
    may "command" command, may "isPreferred" .bool, may "disabled" (.record [need "reason" .text]),
    may "data" .any]

def completionItem : Shape :=
  .record [
    need "label" .text,
    may "labelDetails" (.record [may "detail" .text, may "description" .text]),
    may "kind" .integer,
    may "detail" .text,
    may "documentation" documentation,
    may "deprecated" .bool,
    may "preselect" .bool,
    may "sortText" .text,
    may "filterText" .text,
    may "insertText" .text,
    may "insertTextFormat" .integer,
    may "insertTextMode" .integer,
    may "textEdit" (.either textEdit
      (.record [need "newText" .text, need "insert" range, need "replace" range])),
    may "additionalTextEdits" (.list textEdit),
    may "command" command,
    may "commitCharacters" (.list .text),
    may "data" .any,
    may "tags" (.list .integer)]

def inlayHint : Shape :=
  .record [
    need "position" position,
    need "label" (.either .text (.list (.record [need "value" .text, may "tooltip" documentation,
      may "location" location, may "command" command]))),
    may "kind" .integer,
    may "textEdits" (.list textEdit),
    may "tooltip" documentation,
    may "paddingLeft" .bool,
    may "paddingRight" .bool,
    may "data" .any]

def formattingOptions : Shape :=
  .object [need "tabSize" .natural, need "insertSpaces" .bool, may "trimTrailingWhitespace" .bool,
    may "insertFinalNewline" .bool, may "trimFinalNewlines" .bool] (.either .bool numberOrText)

def signatureHelp : Shape :=
  .record [
    need "signatures" (.list (.record [
      need "label" .text,
      may "documentation" documentation,
      may "parameters" (.list (.record [need "label" (.either .text (.pair .natural)),
        may "documentation" documentation])),
      may "activeParameter" .natural])),
    may "activeSignature" .natural,
    may "activeParameter" .natural]

def signatureContext : Shape :=
  .record [need "triggerKind" .integer, may "triggerCharacter" .text, need "isRetrigger" .bool,
    may "activeSignatureHelp" signatureHelp]

def color : Shape :=
  .record [need "red" .number, need "green" .number, need "blue" .number, need "alpha" .number]

def files (members : List String) : Shape :=
  .record [need "files" (.list (.record (members.map (need · .text))))]

def workspaceSymbol : Shape :=
  .record [need "name" .text, need "kind" .integer, may "tags" (.list .integer), may "containerName" .text,
    need "location" (.either location document), may "data" .any]

def unsupported : List (String × Shape) := [
  ("callHierarchy/incomingCalls", callItem),
  ("callHierarchy/outgoingCalls", callItem),
  ("codeAction/resolve", codeActionItem),
  ("codeLens/resolve", codeLens),
  ("completionItem/resolve", completionItem),
  ("documentLink/resolve", documentLink),
  ("inlayHint/resolve", inlayHint),
  ("textDocument/codeLens", aboutDocument []),
  ("textDocument/colorPresentation", aboutDocument [need "color" color, need "range" range]),
  ("textDocument/declaration", aboutPlaceInParts),
  ("textDocument/definition", aboutPlaceInParts),
  ("textDocument/diagnostic", aboutDocument [may "identifier" .text, may "previousResultId" .text]),
  ("textDocument/documentColor", aboutDocument []),
  ("textDocument/documentHighlight", aboutPlaceInParts),
  ("textDocument/documentLink", aboutDocument []),
  ("textDocument/documentSymbol", aboutDocument []),
  ("textDocument/foldingRange", aboutDocument []),
  ("textDocument/formatting",
    openObject ([need "textDocument" document, need "options" formattingOptions] ++ progress)),
  ("textDocument/implementation", aboutPlaceInParts),
  ("textDocument/inlayHint", openObject ([need "textDocument" document, need "range" range] ++ progress)),
  ("textDocument/inlineValue", openObject ([need "textDocument" document, need "range" range,
    need "context" (.record [need "frameId" .integer, need "stoppedLocation" range])] ++ progress)),
  ("textDocument/linkedEditingRange", aboutPlace),
  ("textDocument/moniker", aboutPlaceInParts),
  ("textDocument/onTypeFormatting", openObject (place ++ [need "ch" .text, need "options" formattingOptions])),
  ("textDocument/prepareCallHierarchy", aboutPlace),
  ("textDocument/prepareRename", .record place),
  ("textDocument/prepareTypeHierarchy", aboutPlace),
  ("textDocument/rangeFormatting", openObject ([need "textDocument" document, need "range" range,
    need "options" formattingOptions] ++ progress)),
  ("textDocument/references", openObject (place ++ partialProgress ++
    [need "context" (.record [need "includeDeclaration" .bool])])),
  ("textDocument/rename", openObject (place ++ progress ++ [need "newName" .text])),
  ("textDocument/selectionRange", aboutDocument [need "positions" (.list position)]),
  ("textDocument/semanticTokens/full", aboutDocument []),
  ("textDocument/semanticTokens/full/delta", aboutDocument [need "previousResultId" .text]),
  ("textDocument/semanticTokens/range", aboutDocument [need "range" range]),
  ("textDocument/signatureHelp", openObject (place ++ progress ++ [may "context" signatureContext])),
  ("textDocument/typeDefinition", aboutPlaceInParts),
  ("textDocument/willSaveWaitUntil", .record [need "textDocument" document, need "reason" .integer]),
  ("typeHierarchy/subtypes", typeItem),
  ("typeHierarchy/supertypes", typeItem),
  ("workspace/diagnostic", openObject ([may "identifier" .text, need "previousResultIds"
    (.list (.record [need "uri" .address, need "value" .text]))] ++ partialProgress)),
  ("workspace/executeCommand", openObject ([need "command" .text, ("arguments", .defaulted, .list .any)] ++
    progress)),
  ("workspace/symbol", openObject (need "query" .text :: partialProgress)),
  ("workspace/willCreateFiles", files ["uri"]),
  ("workspace/willDeleteFiles", files ["uri"]),
  ("workspace/willRenameFiles", files ["oldUri", "newUri"]),
  ("workspaceSymbol/resolve", workspaceSymbol)]

end YamlDialects.Wire.Shape
