import YamlDialects.Server.Parameters.Shape

set_option autoImplicit false

namespace YamlDialects.Wire.Shape

def flags (names : List String) : List (String × Presence × Shape) :=
  names.map (may · .bool)

def flagged (names : List String) : Shape :=
  .record (flags names)

def dynamic : Shape :=
  flagged ["dynamicRegistration"]

def refreshing : Shape :=
  flagged ["refreshSupport"]

def propertyList : Shape :=
  .record [need "properties" (.list .text)]

def tagSupport : String × Presence × Shape :=
  ("tagSupport", .optionalDefaulted, .either .bool (.record [need "valueSet" (.list .integer)]))

def kindSet : Shape :=
  .record [may "valueSet" (.list .integer)]

def markupKinds : Shape :=
  .list (.oneOf ["plaintext", "markdown"])

def workspaceCapabilities : Shape :=
  .record [
    may "applyEdit" .bool,
    may "workspaceEdit" (.record [
      may "documentChanges" .bool,
      may "resourceOperations" (.list (.oneOf ["create", "rename", "delete"])),
      may "failureHandling" (.oneOf ["abort", "transactional", "textOnlyTransactional", "undo"]),
      may "normalizesLineEndings" .bool,
      may "changeAnnotationSupport" (flagged ["groupsOnLabel"])]),
    may "didChangeConfiguration" dynamic,
    may "didChangeWatchedFiles" (flagged ["dynamicRegistration", "relativePatternSupport"]),
    may "symbol" (.record [
      may "dynamicRegistration" .bool,
      may "symbolKind" kindSet,
      tagSupport,
      may "resolveSupport" propertyList]),
    may "executeCommand" dynamic,
    may "workspaceFolders" .bool,
    may "configuration" .bool,
    may "semanticTokens" refreshing,
    may "codeLens" refreshing,
    may "fileOperations" (flagged ["dynamicRegistration", "didCreate", "willCreate", "didRename", "willRename",
      "didDelete", "willDelete"]),
    may "inlineValue" refreshing,
    may "inlayHint" refreshing,
    may "diagnostic" refreshing]

def completionCapabilities : Shape :=
  .record [
    may "dynamicRegistration" .bool,
    may "completionItem" (.record [
      may "snippetSupport" .bool,
      may "commitCharactersSupport" .bool,
      may "documentationFormat" markupKinds,
      may "deprecatedSupport" .bool,
      may "preselectSupport" .bool,
      tagSupport,
      may "insertReplaceSupport" .bool,
      may "resolveSupport" propertyList,
      may "insertTextModeSupport" (.record [need "valueSet" (.list .integer)]),
      may "labelDetailsSupport" .bool]),
    may "completionItemKind" kindSet,
    may "contextSupport" .bool,
    may "insertTextMode" .integer,
    may "completionList" (.record [may "itemDefaults" (.list .text)])]

def signatureCapabilities : Shape :=
  .record [
    may "dynamicRegistration" .bool,
    may "signatureInformation" (.record [
      may "documentationFormat" markupKinds,
      may "parameterInformation" (flagged ["labelOffsetSupport"]),
      may "activeParameterSupport" .bool]),
    may "contextSupport" .bool]

def codeActionCapabilities : Shape :=
  .record [
    may "dynamicRegistration" .bool,
    may "codeActionLiteralSupport" (.record [
      need "codeActionKind" (.record [need "valueSet" (.list .text)])]),
    may "isPreferredSupport" .bool,
    may "disabledSupport" .bool,
    may "dataSupport" .bool,
    may "resolveSupport" propertyList,
    may "honorsChangeAnnotations" .bool]

def semanticTokenCapabilities : Shape :=
  .record [
    may "dynamicRegistration" .bool,
    need "requests" (.record [may "range" .bool, may "full" (.either .bool (flagged ["delta"]))]),
    need "tokenTypes" (.list .text),
    need "tokenModifiers" (.list .text),
    need "formats" (.list .text),
    may "overlappingTokenSupport" .bool,
    may "multilineTokenSupport" .bool,
    may "serverCancelSupport" .bool,
    may "augmentsSyntaxTokens" .bool]

def documentCapabilities : Shape :=
  let target := flagged ["dynamicRegistration", "linkSupport"]
  .record [
    may "synchronization" (flagged ["dynamicRegistration", "willSave", "willSaveWaitUntil", "didSave"]),
    may "completion" completionCapabilities,
    may "hover" (.record [may "dynamicRegistration" .bool, may "contentFormat" markupKinds]),
    may "signatureHelp" signatureCapabilities,
    may "references" dynamic,
    may "documentHighlight" dynamic,
    may "documentSymbol" (.record [
      may "dynamicRegistration" .bool,
      may "symbolKind" kindSet,
      may "hierarchicalDocumentSymbolSupport" .bool,
      tagSupport]),
    may "formatting" dynamic,
    may "rangeFormatting" dynamic,
    may "onTypeFormatting" dynamic,
    may "declaration" target,
    may "definition" target,
    may "typeDefinition" target,
    may "implementation" target,
    may "codeAction" codeActionCapabilities,
    may "codeLens" dynamic,
    may "documentLink" (flagged ["dynamicRegistration", "tooltipSupport"]),
    may "colorProvider" dynamic,
    may "rename" (.record [
      may "dynamicRegistration" .bool,
      may "prepareSupport" .bool,
      may "prepareSupportDefaultBehavior" .integer,
      may "honorsChangeAnnotations" .bool]),
    may "publishDiagnostics" (.record [
      may "relatedInformation" .bool,
      tagSupport,
      may "versionSupport" .bool,
      may "codeDescriptionSupport" .bool,
      may "dataSupport" .bool]),
    may "foldingRange" (.record [
      may "dynamicRegistration" .bool,
      may "rangeLimit" .natural,
      may "lineFoldingOnly" .bool,
      may "foldingRangeKind" (.record [may "valueSet" (.list (.oneOf ["comment", "imports", "region"]))]),
      may "foldingRange" (flagged ["collapsedText"])]),
    may "selectionRange" dynamic,
    may "linkedEditingRange" dynamic,
    may "callHierarchy" dynamic,
    may "semanticTokens" semanticTokenCapabilities,
    may "moniker" dynamic,
    may "typeHierarchy" dynamic,
    may "inlineValue" dynamic,
    may "inlayHint" (.record [may "dynamicRegistration" .bool, may "resolveSupport" propertyList]),
    may "diagnostic" (flagged ["dynamicRegistration", "relatedDocumentSupport"])]

def windowCapabilities : Shape :=
  .record [
    may "workDoneProgress" .bool,
    may "showMessage" (.record [may "messageActionItem" (flagged ["additionalPropertiesSupport"])]),
    may "showDocument" (.record [need "support" .bool])]

def generalCapabilities : Shape :=
  .record [
    may "regularExpressions" (.record [need "engine" .text, may "version" .text]),
    may "markdown" (.record [need "parser" .text, may "version" .text, may "allowedTags" (.list .text)]),
    may "staleRequestSupport" (.record [need "cancel" .bool, need "retryOnContentModified" (.list .text)]),
    may "positionEncodings" (.list .text)]

def capabilities : Shape :=
  .record [
    may "workspace" workspaceCapabilities,
    may "textDocument" documentCapabilities,
    may "notebookDocument" (.record [
      need "synchronization" (flagged ["dynamicRegistration", "executionSummarySupport"])]),
    may "window" windowCapabilities,
    may "general" generalCapabilities,
    may "experimental" .any]

def start : Shape :=
  .record [
    may "processId" .natural,
    may "rootPath" .text,
    ("rootUri", .optionalDefaulted, .address),
    may "initializationOptions" .any,
    need "capabilities" capabilities,
    ("trace", .optionalDefaulted, .oneOf ["off", "messages", "verbose"]),
    may "workspaceFolders" (.list (.record [need "uri" .address, need "name" .text])),
    may "clientInfo" (.record [need "name" .text, may "version" .text]),
    may "locale" .text]

end YamlDialects.Wire.Shape
