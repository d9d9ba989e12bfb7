import YamlDialects.Yaml.Chars

set_option autoImplicit false

namespace YamlDialects.Yaml

inductive Cause where
  | keyWithoutColon
  | keyExpected
  | contentAfterDocumentEnd
  | indentation
  | unexpectedChar (found : Char)
  | tabIndentation
  | commentGap
  | directiveName
  | directiveNameChar
  | versionNumber
  | longVersionNumber
  | versionPoint
  | tagPrefixChar
  | tagDirectiveEnd
  | directiveEnd
  | tagMark
  | tagHandleMark
  | verbatimTagEnd
  | tagUri
  | uriEscape
  | uriLeadingByte
  | uriTrailingByte
  | uriCodePoint
  | tagEnd
  | anchorName
  | flowNesting
  | dashInFlow
  | itemNotAllowed
  | anchorIndentation
  | dashGap
  | keyNotAllowed
  | spaceExpected
  | tabAfterKeyMark
  | colonGap
  | colonPlace
  | valueNotAllowed
  | colonBeforeFlow
  | documentMarkInQuotes
  | endInQuotes
  | quotedIndentation
  | unknownEscape
  | escapeDigits
  | escapeCodePoint
  | tabInQuotes
  | contentAfterQuotes
  | flowIndentation
  | dashBeforeFlow
  | tabInPlain
  | emptyPlain
  | zeroIndentIndicator
  | blockHeaderEnd
  | tabBeforeBlock
  | blockIndentation
  | secondVersion
  | documentStart
  | directiveInDocument
  | unknownAnchor
  | undeclaredHandle
  | nodeContent
  | mappingKey
  | sequenceDash
  | flowSequenceEntry
  | flowMappingEntry
deriving DecidableEq, Inhabited

namespace Cause

def message : Cause → String
  | .keyWithoutColon => "simple key expect ':'"
  | .keyExpected => "simple key expected"
  | .contentAfterDocumentEnd => "invalid content after document end marker"
  | .indentation => "invalid indentation"
  | .unexpectedChar found => "unexpected character: `" ++ String.singleton found ++ "'"
  | .tabIndentation => "tabs disallowed within this context (block indentation)"
  | .commentGap => "comments must be separated from other tokens by whitespace"
  | .directiveName => "while scanning a directive, could not find expected directive name"
  | .directiveNameChar => "while scanning a directive, found unexpected non-alphabetical character"
  | .versionNumber => "while scanning a YAML directive, did not find expected version number"
  | .longVersionNumber => "while scanning a YAML directive, found extremely long version number"
  | .versionPoint => "while scanning a YAML directive, did not find expected digit or '.' character"
  | .tagPrefixChar => "invalid global tag character"
  | .tagDirectiveEnd => "while scanning TAG, did not find expected whitespace or line break"
  | .directiveEnd => "while scanning a directive, did not find expected comment or line break"
  | .tagMark => "while scanning a tag, did not find expected '!'"
  | .tagHandleMark => "while parsing a tag directive, did not find expected '!'"
  | .verbatimTagEnd => "while scanning a verbatim tag, did not find the expected '>'"
  | .tagUri => "while parsing a tag, did not find expected tag URI"
  | .uriEscape => "while parsing a tag, found an invalid escape sequence"
  | .uriLeadingByte => "while parsing a tag, found an incorrect leading UTF-8 byte"
  | .uriTrailingByte => "while parsing a tag, found an incorrect trailing UTF-8 byte"
  | .uriCodePoint => "while parsing a tag, found an invalid UTF-8 codepoint"
  | .tagEnd => "while scanning a tag, did not find expected whitespace or line break"
  | .anchorName =>
      "while scanning an anchor or alias, did not find expected alphabetic or numeric character"
  | .flowNesting => "recursion limit exceeded"
  | .dashInFlow => "\"-\" is only valid inside a block"
  | .itemNotAllowed => "block sequence entries are not allowed in this context"
  | .anchorIndentation => "invalid indentation for anchor"
  | .dashGap => "'-' must be followed by a valid YAML whitespace"
  | .keyNotAllowed => "mapping keys are not allowed in this context"
  | .spaceExpected => "expected whitespace"
  | .tabAfterKeyMark => "tabs disallowed in this context"
  | .colonGap => "':' must be followed by a valid YAML whitespace"
  | .colonPlace => "illegal placement of ':' indicator"
  | .valueNotAllowed => "mapping values are not allowed in this context"
  | .colonBeforeFlow => "':' may not precede any of `[\x7b` in flow mapping"
  | .documentMarkInQuotes => "while scanning a quoted scalar, found unexpected document indicator"
  | .endInQuotes => "while scanning a quoted scalar, found unexpected end of stream"
  | .quotedIndentation => "invalid indentation in quoted scalar"
  | .unknownEscape => "while parsing a quoted scalar, found unknown escape character"
  | .escapeDigits => "while parsing a quoted scalar, did not find expected hexadecimal number"
  | .escapeCodePoint => "while parsing a quoted scalar, found invalid Unicode character escape code"
  | .tabInQuotes => "tab cannot be used as indentation"
  | .contentAfterQuotes => "invalid trailing content after double-quoted scalar"
  | .flowIndentation => "invalid indentation in flow construct"
  | .dashBeforeFlow => "plain scalar cannot start with '-' followed by ,[]\x7b\x7d"
  | .tabInPlain => "while scanning a plain scalar, found a tab"
  | .emptyPlain => "unexpected end of plain scalar"
  | .zeroIndentIndicator =>
      "while scanning a block scalar, found an indentation indicator equal to 0"
  | .blockHeaderEnd => "while scanning a block scalar, did not find expected comment or line break"
  | .tabBeforeBlock => "a block scalar content cannot start with a tab"
  | .blockIndentation => "wrongly indented line in block scalar"
  | .secondVersion => "duplicate version directive"
  | .documentStart => "did not find expected <document start>"
  | .directiveInDocument => "missing explicit document end marker before directive"
  | .unknownAnchor => "while parsing node, found unknown anchor"
  | .undeclaredHandle => "the handle wasn't declared"
  | .nodeContent => "while parsing a node, did not find expected node content"
  | .mappingKey => "while parsing a block mapping, did not find expected key"
  | .sequenceDash => "while parsing a block collection, did not find expected '-' indicator"
  | .flowSequenceEntry => "while parsing a flow sequence, expected ',' or ']'"
  | .flowMappingEntry => "while parsing a flow mapping, did not find expected ',' or '\x7d'"

end Cause

structure Fault where
  cause : Cause
  mark : Mark
deriving DecidableEq, Inhabited

end YamlDialects.Yaml
