import PatternLexer.Examples.Arithmetic
import PatternLexer.Examples.Sum
import PatternLexer.Rule.Report
import PatternLexer.Session.Run
import PatternLexer.Proofs.Search
import PatternLexer.Proofs.Renumber
import PatternLexer.Proofs.Composite
import PatternLexer.Proofs.CursorStream
import PatternLexer.Proofs.Pulling
import PatternLexer.Proofs.Tiling
import PatternLexer.Proofs.Place
import PatternLexer.Proofs.Options
import PatternLexer.Proofs.Merging
import PatternLexer.Proofs.FailedReset
import PatternLexer.Proofs.Sharing
import PatternLexer.Proofs.Program
import PatternLexer.Proofs.Scoping
import PatternLexer.Proofs.Remainder
import PatternLexer.Proofs.Rewinding
import PatternLexer.Proofs.Attribution
import PatternLexer.Proofs.Unmatched
import PatternLexer.Proofs.Appending
import PatternLexer.Proofs.SumParser
import PatternLexer.Proofs.Competing
import PatternLexer.Proofs.LineFeeds
import PatternLexer.Proofs.Apart
import PatternLexer.Proofs.Normalizing
import PatternLexer.Proofs.Configuring
import PatternLexer.Proofs.Forms
