import Harvest.Catalog.Listing
import Harvest.Crawl.Details
import Harvest.Fetch.Client
import Harvest.Proofs.Catalog.NormalForm
import Harvest.Proofs.XPath.Completeness
import Harvest.Proofs.XPath.NodeSets
import Harvest.Proofs.XPath.Standalone
import Harvest.Script.Loading
import Harvest.Script.Replies
import Harvest.Proofs.Markup.Tree
import Harvest.Proofs.Script.Ceiling
import Harvest.Proofs.XPath.Axes
import Harvest.Proofs.Crawl.Invariant
import Harvest.Proofs.Crawl.FaultPolicy
import Harvest.Proofs.Crawl.Halting
import Harvest.Proofs.Crawl.Exporting
import Harvest.Proofs.Rule.Density
import Harvest.Proofs.Rule.Footprint
import Harvest.Proofs.Rule.Faults
import Harvest.Proofs.Rule.Guards
import Harvest.Proofs.Xml.Leniency
import Harvest.Proofs.Catalog.CanonicalText
import Harvest.Proofs.Crawl.Limits
import Harvest.Proofs.Crawl.Completion
import Harvest.Proofs.Script.Bookkeeping
import Harvest.Proofs.Xml.Mirroring
import Harvest.Proofs.Xml.Printing
import Harvest.Proofs.Catalog.Distinct
import Harvest.Proofs.Catalog.FormText
import Harvest.Proofs.Crawl.NextLinks
import Harvest.Proofs.Script.Logging
import Harvest.Proofs.Catalog.Union
import Harvest.Proofs.Crawl.Coincidence
import Harvest.Proofs.Markup.Faithful
import Harvest.Proofs.XPath.AnyDepth
import Harvest.Proofs.XPath.Opposites
import Harvest.Proofs.XPath.OrSelf
import Harvest.Proofs.Fetch.Waiting
import Harvest.Proofs.Rule.Splitting
import Harvest.Proofs.Catalog.Merging
import Harvest.Proofs.Crawl.Cookies
import Harvest.Proofs.HaltToken
import Harvest.Proofs.Rule.Loading
import Harvest.Proofs.Catalog.Years
import Harvest.Proofs.Xml.Outermost
import Harvest.Proofs.XPath.ErrorPosition
import Harvest.Proofs.Markup.Flattening
import Harvest.Proofs.XPath.Failures
