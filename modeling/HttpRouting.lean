import HttpRouting.Proofs.LiteralMatch
import HttpRouting.Proofs.Overriding
import HttpRouting.Proofs.PassSplit
import HttpRouting.Proofs.PathSegments
import HttpRouting.Proofs.RouteNames
import HttpRouting.Proofs.PluralResource
import HttpRouting.Proofs.ResourceUrls
import HttpRouting.Proofs.DefaultRoute
import HttpRouting.Proofs.MatchedParams
import HttpRouting.Proofs.ParamGeneration
import HttpRouting.Proofs.ResourceNests
import HttpRouting.Proofs.NestedResources
import HttpRouting.Proofs.ReadingOn
import HttpRouting.Proofs.Enclosed
import HttpRouting.Proofs.TokenEnds
import HttpRouting.Proofs.SplicedPath
import HttpRouting.Proofs.OptionChecks
import HttpRouting.Proofs.CaseVariants
import HttpRouting.Proofs.SmallLetters
import HttpRouting.Proofs.CaselessReading
import HttpRouting.Proofs.MethodCase
import HttpRouting.Proofs.DefaultAction
import HttpRouting.Proofs.Additions
import HttpRouting.Proofs.ResourceNames
import HttpRouting.Proofs.MemberScope
import HttpRouting.Proofs.TemplateParts
import HttpRouting.Proofs.Cuts
import HttpRouting.Proofs.CaptureCount
import HttpRouting.Proofs.SyntaxColons
import HttpRouting.Proofs.RouteUrls
import HttpRouting.Proofs.DefaultQuery
import HttpRouting.Proofs.JoinedPaths
import HttpRouting.Proofs.QueryOrder
import HttpRouting.Proofs.PlaceholderParams
import HttpRouting.Proofs.MethodSets
import HttpRouting.Proofs.NameCount
import HttpRouting.Proofs.NameTable
import HttpRouting.Proofs.Singulars
import HttpRouting.Proofs.RejectedResources
import HttpRouting.Proofs.CountSeams
